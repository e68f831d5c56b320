import Mathlib.Algebra.Order.BigOperators.Group.List
import Mathlib.Algebra.Order.Ring.Nat
import Mathlib.Data.List.Basic
import Mathlib.Data.Nat.Digits

/-
The simulator's replay of a script, `WMBusSimulator::simulate`.

The script is the constructor's `telegram=<hex>` line, if it was given a hex,
followed by the lines of its file.  `simulate` reads the clock once at the start,
then walks the lines.  A line that starts with `telegram=` is scanned: `|` is
skipped, and at the first `+` the rest of the line is read by `atoi` as a
relative time.  A timed directive waits, one second at a time, until the clock is
past `start_time + rel_time`, polling `isRunning()` after each sleep; then, timed
or not, the hex goes through `hex2bin` and the bytes to `handleTelegram`.  After
the last line the manager is stopped.

The surroundings are the clock and the manager: `SimEnv` gives the value of
every `time(NULL)` and of every `isRunning()` the replay makes, in order, and the
replay is recorded as the list of those calls and of its own actions.  The wait
is a `for (;;)`; it is given fuel, and `simulate_replays_script` shows that fuel
always suffices once the clock goes past every bound.
-/

namespace Wmbusmeters

/-! ### `atoi` -/

/-- `isspace` in the C locale. -/
def isSpace (c : Char) : Bool :=
  c == ' ' || c == '\t' || c == '\n' || c == '\x0B' || c == '\x0C' || c == '\r'

/-- The value of the decimal digits at the front, accumulated onto `acc`. -/
def digitsValue (acc : Nat) : List Char → Nat
  | c :: cs => if c.isDigit then digitsValue (acc * 10 + (c.toNat - '0'.toNat)) cs else acc
  | [] => acc

/-- `LONG_MAX` and `LONG_MIN` of a 64-bit `long`. -/
def longMax : Int := 2 ^ 63 - 1
def longMin : Int := -2 ^ 63

/-- The conversion of a `long` to a 32-bit `int`: the value modulo `2^32`. -/
def toInt32 (v : Int) : Int := (v + 2 ^ 31) % 2 ^ 32 - 2 ^ 31

/-- `atoi` as glibc computes it, `(int) strtol(s, NULL, 10)`: blanks, a sign, then
digits, saturated to the range of `long` and then cut to an `int`. -/
def atoi (s : List Char) : Int :=
  let v : Int :=
    match s.dropWhile isSpace with
    | '-' :: t => -(digitsValue 0 t : Int)
    | '+' :: t => digitsValue 0 t
    | t => digitsValue 0 t
  toInt32 (max longMin (min longMax v))

/-! ### The script -/

/-- The characters of `l.c_str()`: a C string ends at its first NUL. -/
def cStr (s : List Char) : List Char := s.takeWhile (· ≠ '\x00')

/-- `l.substr(0,9) == "telegram="`. -/
def IsDirective (l : List Char) : Prop := l.take 9 = "telegram=".toList

instance (l : List Char) : Decidable (IsDirective l) := inferInstanceAs (Decidable (_ = _))

/-- The scan of a directive after `telegram=`: the hex text, with every `|`
skipped, up to the first `+`, and `atoi` of what follows that `+`, if there is one. -/
def scanDirective : List Char → List Char × Option Int
  | [] => ([], none)
  | c :: cs =>
    if c = '|' then scanDirective cs
    else if c = '+' then ([], some (atoi cs))
    else ((c :: (scanDirective cs).1), (scanDirective cs).2)

/-- The lines the constructor collects: a `telegram=` line for the hex it is given,
then the lines `loadFile` read from its file. -/
def WMBusSimulator.lines (hex : List Char) (fileLines : List (List Char)) : List (List Char) :=
  (if hex = [] then [] else ["telegram=".toList ++ hex]) ++ fileLines

/-! ### The replay -/

/-- What the replay does, and what its surroundings answer. -/
inductive SimEvent where
  /-- `time(NULL)` returned `t`. -/
  | time (t : Int)
  /-- `usleep(1000*1000)`. -/
  | usleep
  /-- `manager_->isRunning()` returned `b`. -/
  | isRunning (b : Bool)
  | handleTelegram (payload : List UInt8)
  /-- `error("Not a valid string of hex bytes! ...")`, which ends the program. -/
  | error
  /-- `manager_->stop()`. -/
  | stop
  deriving DecidableEq, Repr

/-- The answers of the clock and the manager: the `n`-th `time(NULL)` and the
`n`-th `isRunning()`. -/
structure SimEnv where
  time : Nat → Int
  isRunning : Nat → Bool

/-- The `for (;;)` of a timed directive, from the `nt`-th clock reading and the
`nr`-th poll: leave once the clock is past `target`, else sleep a second and leave
early if the manager has stopped.  It returns the counters after it and the events. -/
def waitLoop (env : SimEnv) (target : Int) : Nat → Nat → Nat → Option (Nat × Nat × List SimEvent)
  | 0, _, _ => none
  | fuel + 1, nt, nr =>
    if target < env.time nt then some (nt + 1, nr, [.time (env.time nt)])
    else if env.isRunning nr then
      (waitLoop env target fuel (nt + 1) (nr + 1)).map fun r =>
        (r.1, r.2.1, .time (env.time nt) :: .usleep :: .isRunning true :: r.2.2)
    else some (nt + 1, nr + 1, [.time (env.time nt), .usleep, .isRunning false])

/-- A directive timed `rel` seconds after `start`: one clock reading, and the wait
only if that reading is still before `start + rel`. -/
def waitFor (env : SimEnv) (fuel : Nat) (start rel : Int) (nt nr : Nat) :
    Option (Nat × Nat × List SimEvent) :=
  if env.time nt < start + rel then
    (waitLoop env (start + rel) fuel (nt + 1) nr).map fun r =>
      (r.1, r.2.1, .time (env.time nt) :: r.2.2)
  else some (nt + 1, nr, [.time (env.time nt)])

/-- What a directive waits: nothing without a `+`, else `waitFor` its time. -/
def waitDirective (env : SimEnv) (fuel : Nat) (start : Int) (rel? : Option Int) (nt nr : Nat) :
    Option (Nat × Nat × List SimEvent) :=
  match rel? with
  | none => some (nt, nr, [])
  | some rel => waitFor env fuel start rel nt nr

/-- The `for (auto l : lines_)` of `simulate`, with `start_time` read already. -/
def replay (hex2bin : List Char → Option (List UInt8)) (env : SimEnv) (fuel : Nat) (start : Int) :
    List (List Char) → Nat → Nat → Option (List SimEvent)
  | [], _, _ => some [.stop]
  | l :: ls, nt, nr =>
    if IsDirective l then
      match waitDirective env fuel start (scanDirective (l.drop 9)).2 nt nr with
      | none => none
      | some (nt', nr', evs) =>
        match hex2bin (cStr (scanDirective (l.drop 9)).1) with
        | none => some (evs ++ [.error])
        | some payload =>
          (replay hex2bin env fuel start ls nt' nr').map fun rest =>
            evs ++ .handleTelegram payload :: rest
    else replay hex2bin env fuel start ls nt nr

/-- `WMBusSimulator::simulate`, with `hex2bin` (not in the sources) as a parameter:
`some bytes` for a hex it accepts, `none` for `!ok`. -/
def WMBusSimulator.simulate (hex2bin : List Char → Option (List UInt8)) (env : SimEnv)
    (fuel : Nat) (lines : List (List Char)) : Option (List SimEvent) :=
  (replay hex2bin env fuel (env.time 0) lines 1 0).map (.time (env.time 0) :: ·)

/-! ### Replaying after a stop

`isRunning()` only ends the wait of the directive at hand: the `break` leaves the
inner `for (;;)`, and that directive, and every one after it, is still replayed.
-/

/-- The value of a hex digit. -/
def hexDigit (c : Char) : Option Nat :=
  if c.isDigit then some (c.toNat - '0'.toNat)
  else if 'a' ≤ c ∧ c ≤ 'f' then some (c.toNat - 'a'.toNat + 10)
  else if 'A' ≤ c ∧ c ≤ 'F' then some (c.toNat - 'A'.toNat + 10)
  else none

/-- Modelled from the spec: `hex2bin` (util.cc is not in the sources) reads the hex
of a `telegram=<hex>` directive two hex digits to a byte, and fails on anything
else.  Only the concrete runs below use it; every theorem about the replay holds
for any `hex2bin`. -/
def hex2bin : List Char → Option (List UInt8)
  | [] => some []
  | hi :: lo :: rest => do
    let h ← hexDigit hi
    let l ← hexDigit lo
    let bytes ← hex2bin rest
    pure (UInt8.ofNat (h * 16 + l) :: bytes)
  | [_] => none

/-- A replay whose manager is stopped before its first timed directive is due: the
wait ends at the first poll, but that directive is still dispatched, and the next
one sleeps once more before it is dispatched too. -/
theorem simulate_dispatches_after_stop :
    WMBusSimulator.simulate hex2bin ⟨fun _ => 0, fun _ => false⟩ 10
        ["telegram=AA|+5".toList, "telegram=BB|+5".toList] =
      some [.time 0, .time 0, .time 0, .usleep, .isRunning false, .handleTelegram [0xAA],
        .time 0, .time 0, .usleep, .isRunning false, .handleTelegram [0xBB], .stop] := by
  decide

/-! ### Replaying while the manager runs -/

/-- Waiting: a clock reading, a sleep, or a poll that found the manager running. -/
def SimEvent.isWait : SimEvent → Bool
  | .time _ | .usleep | .isRunning true => true
  | _ => false

/-- What one line of the script is to produce while the manager keeps running:
nothing for a line that is not a directive; for a directive, its payload,
dispatched once, after some waiting and, when it carries `+r`, right after a
clock reading no earlier than `start + r`. -/
inductive Replayed (hex2bin : List Char → Option (List UInt8)) (start : Int) :
    List Char → List SimEvent → Prop
  | other {l : List Char} : ¬ IsDirective l → Replayed hex2bin start l []
  | untimed {l : List Char} {p : List UInt8} : IsDirective l →
      (scanDirective (l.drop 9)).2 = none → hex2bin (scanDirective (l.drop 9)).1 = some p →
      Replayed hex2bin start l [.handleTelegram p]
  | timed {l : List Char} {p : List UInt8} {r t : Int} {waits : List SimEvent} :
      IsDirective l → (scanDirective (l.drop 9)).2 = some r →
      hex2bin (scanDirective (l.drop 9)).1 = some p → (∀ e ∈ waits, e.isWait) → start + r ≤ t →
      Replayed hex2bin start l (waits ++ [.time t, .handleTelegram p])

/-- Hex digits only. -/
def ValidHex (s : List Char) : Prop := ∀ c ∈ s, (hexDigit c).isSome

instance (s : List Char) : Decidable (ValidHex s) := inferInstanceAs (Decidable (∀ c ∈ s, _))

theorem cStr_of_validHex {s : List Char} (h : ValidHex s) : cStr s = s :=
  List.takeWhile_eq_self_iff.mpr fun c hc => by
    have := h c hc
    simp only [decide_eq_true_eq, ne_eq]
    rintro rfl
    simp [hexDigit] at this

section running

variable {env : SimEnv} (running : ∀ n, env.isRunning n = true)
include running

/-- While the manager runs, a wait ends only with a clock reading past its target. -/
theorem waitLoop_running {target : Int} :
    ∀ {fuel nt nr nt' nr' evs}, waitLoop env target fuel nt nr = some (nt', nr', evs) →
      ∃ waits t, evs = waits ++ [.time t] ∧ target < t ∧ ∀ e ∈ waits, e.isWait
  | 0, _, _, _, _, _, h => by simp [waitLoop] at h
  | fuel + 1, nt, nr, nt', nr', evs, h => by
    unfold waitLoop at h
    split_ifs at h with hpast
    · simp only [Option.some.injEq, Prod.mk.injEq] at h
      exact ⟨[], _, by rw [← h.2.2]; rfl, hpast, by simp⟩
    · simp only [running, ite_true, Option.map_eq_some'] at h
      obtain ⟨⟨a, b, evs'⟩, hrec, heq⟩ := h
      obtain ⟨waits, t, rfl, ht, hw⟩ := waitLoop_running hrec
      simp only [Prod.mk.injEq] at heq
      refine ⟨.time (env.time nt) :: .usleep :: .isRunning true :: waits, t, by rw [← heq.2.2]; rfl,
        ht, ?_⟩
      simp only [List.mem_cons]
      rintro e (rfl | rfl | rfl | he) <;> first | rfl | exact hw e he
    · exact absurd (running nr) ‹_›

/-- While the manager runs, a timed directive is dispatched only after a clock
reading no earlier than its time. -/
theorem waitFor_running {fuel : Nat} {start rel : Int} {nt nr nt' nr' : Nat} {evs : List SimEvent}
    (h : waitFor env fuel start rel nt nr = some (nt', nr', evs)) :
    ∃ waits t, evs = waits ++ [.time t] ∧ start + rel ≤ t ∧ ∀ e ∈ waits, e.isWait := by
  unfold waitFor at h
  split_ifs at h with hbefore
  · simp only [Option.map_eq_some'] at h
    obtain ⟨⟨a, b, evs'⟩, hrec, heq⟩ := h
    obtain ⟨waits, t, rfl, ht, hw⟩ := waitLoop_running running hrec
    simp only [Prod.mk.injEq] at heq
    refine ⟨.time (env.time nt) :: waits, t, by rw [← heq.2.2]; rfl, Int.le_of_lt ht, ?_⟩
    simp only [List.mem_cons]
    rintro e (rfl | he)
    · rfl
    · exact hw e he
  · simp only [Option.some.injEq, Prod.mk.injEq] at h
    exact ⟨[], _, by rw [← h.2.2]; rfl, Int.not_lt.mp hbefore, by simp⟩

/-- Every line is replayed as `Replayed` says, and the manager is stopped once at
the end. -/
theorem replay_running (hex2bin : List Char → Option (List UInt8)) (fuel : Nat) (start : Int) :
    ∀ (lines : List (List Char)) (nt nr : Nat) (trace : List SimEvent),
      (∀ l ∈ lines, IsDirective l →
        ValidHex (scanDirective (l.drop 9)).1 ∧ (hex2bin (scanDirective (l.drop 9)).1).isSome) →
      replay hex2bin env fuel start lines nt nr = some trace →
      ∃ segs, trace = segs.flatten ++ [.stop] ∧ List.Forall₂ (Replayed hex2bin start) lines segs
  | [], _, _, trace, _, h => ⟨[], by simpa [replay] using h.symm, .nil⟩
  | l :: ls, nt, nr, trace, hvalid, h => by
    have hrest := fun l' hl' => hvalid l' (List.mem_cons_of_mem l hl')
    unfold replay at h
    by_cases hdir : IsDirective l
    · obtain ⟨hhex, hok⟩ := hvalid l (List.mem_cons_self l ls) hdir
      obtain ⟨p, hp⟩ := Option.isSome_iff_exists.mp hok
      rw [if_pos hdir] at h
      cases hw : waitDirective env fuel start (scanDirective (l.drop 9)).2 nt nr with
      | none => simp [hw] at h
      | some w =>
        obtain ⟨nt', nr', evs⟩ := w
        simp only [hw, cStr_of_validHex hhex, hp, Option.map_eq_some'] at h
        obtain ⟨rest, hreplay, rfl⟩ := h
        obtain ⟨segs, rfl, hsegs⟩ := replay_running hex2bin fuel start ls _ _ rest hrest hreplay
        cases hrel : (scanDirective (l.drop 9)).2 with
        | none =>
          simp only [waitDirective, hrel, Option.some.injEq, Prod.mk.injEq] at hw
          obtain ⟨-, -, rfl⟩ := hw
          exact ⟨[.handleTelegram p] :: segs, by simp, .cons (.untimed hdir hrel hp) hsegs⟩
        | some rel =>
          simp only [waitDirective, hrel] at hw
          obtain ⟨waits, t, rfl, ht, hwait⟩ := waitFor_running running hw
          exact ⟨(waits ++ [.time t, .handleTelegram p]) :: segs, by simp,
            .cons (.timed hdir hrel hp hwait ht) hsegs⟩
    · rw [if_neg hdir] at h
      obtain ⟨segs, rfl, hsegs⟩ := replay_running hex2bin fuel start ls nt nr trace hrest h
      exact ⟨[] :: segs, by simp, .cons (.other hdir) hsegs⟩

end running

/-! ### Fuel suffices once the clock moves on -/

/-- More fuel changes nothing once the wait has ended. -/
theorem waitLoop_mono {env : SimEnv} {target : Int} (m : Nat) :
    ∀ {fuel nt nr r}, waitLoop env target fuel nt nr = some r →
      waitLoop env target (fuel + m) nt nr = some r
  | 0, _, _, _, h => by simp [waitLoop] at h
  | fuel + 1, nt, nr, r, h => by
    rw [Nat.add_right_comm]
    unfold waitLoop at h ⊢
    split_ifs at h ⊢
    · exact h
    · simp only [Option.map_eq_some'] at h ⊢
      obtain ⟨r', hr, rfl⟩ := h
      exact ⟨r', waitLoop_mono m hr, rfl⟩
    · exact h

theorem waitFor_mono {env : SimEnv} {fuel : Nat} {start rel : Int} {nt nr : Nat} {r}
    (m : Nat) (h : waitFor env fuel start rel nt nr = some r) :
    waitFor env (fuel + m) start rel nt nr = some r := by
  unfold waitFor at h ⊢
  split_ifs at h ⊢
  · simp only [Option.map_eq_some'] at h ⊢
    obtain ⟨r', hr, rfl⟩ := h
    exact ⟨r', waitLoop_mono m hr, rfl⟩
  · exact h

theorem waitDirective_mono {env : SimEnv} {fuel : Nat} {start : Int} {rel? : Option Int}
    {nt nr : Nat} {r} (m : Nat) (h : waitDirective env fuel start rel? nt nr = some r) :
    waitDirective env (fuel + m) start rel? nt nr = some r := by
  cases rel? with
  | none => exact h
  | some rel => exact waitFor_mono m h

theorem replay_mono {hex2bin : List Char → Option (List UInt8)} {env : SimEnv} {fuel : Nat}
    {start : Int} (m : Nat) : ∀ {lines nt nr trace},
      replay hex2bin env fuel start lines nt nr = some trace →
      replay hex2bin env (fuel + m) start lines nt nr = some trace
  | [], _, _, _, h => h
  | l :: ls, nt, nr, trace, h => by
    unfold replay at h ⊢
    split_ifs at h ⊢
    · cases hw : waitDirective env fuel start (scanDirective (l.drop 9)).2 nt nr with
      | none => simp [hw] at h
      | some w =>
        obtain ⟨nt', nr', evs⟩ := w
        rw [hw] at h
        rw [waitDirective_mono m hw]
        cases hp : hex2bin (cStr (scanDirective (l.drop 9)).1) with
        | none => simpa [hp] using h
        | some p =>
          simp only [hp, Option.map_eq_some'] at h ⊢
          obtain ⟨rest, hr, rfl⟩ := h
          exact ⟨rest, replay_mono m hr, rfl⟩
    · exact replay_mono m h

section running

variable {env : SimEnv} (running : ∀ n, env.isRunning n = true)
include running

/-- While the manager runs, a wait reaches the first clock reading past its target. -/
theorem waitLoop_ends {target : Int} {k : Nat} (hk : target < env.time k) :
    ∀ d nt nr, nt + d = k → (waitLoop env target (d + 1) nt nr).isSome
  | 0, nt, nr, h => by rw [Nat.add_zero] at h; subst h; simp [waitLoop, hk]
  | d + 1, nt, nr, h => by
    unfold waitLoop
    simp only [running, ite_true]
    split_ifs
    · rfl
    · simpa using waitLoop_ends hk d (nt + 1) (nr + 1) (by omega)

/-- **Some fuel suffices**: while the manager runs and the clock goes past every
bound, the replay reaches its end. -/
theorem replay_ends (hclock : ∀ (T : Int) (n : Nat), ∃ k, n ≤ k ∧ T < env.time k)
    (hex2bin : List Char → Option (List UInt8)) (start : Int) :
    ∀ (lines : List (List Char)) (nt nr : Nat), ∃ fuel,
      (replay hex2bin env fuel start lines nt nr).isSome
  | [], _, _ => ⟨0, rfl⟩
  | l :: ls, nt, nr => by
    by_cases hdir : IsDirective l
    · -- The wait of this line ends with some fuel, and the rest needs some more.
      have hwait : ∃ f₀ w, ∀ m,
          waitDirective env (f₀ + m) start (scanDirective (l.drop 9)).2 nt nr = some w := by
        cases (scanDirective (l.drop 9)).2 with
        | none => exact ⟨0, _, fun _ => rfl⟩
        | some rel =>
          by_cases hbefore : env.time nt < start + rel
          · obtain ⟨k, hk, hpast⟩ := hclock (start + rel) (nt + 1)
            have := waitLoop_ends running hpast (k - (nt + 1)) (nt + 1) nr (by omega)
            obtain ⟨r, hr⟩ := Option.isSome_iff_exists.mp this
            have hw : waitFor env (k - (nt + 1) + 1) start rel nt nr =
                some (r.1, r.2.1, .time (env.time nt) :: r.2.2) := by
              simp [waitFor, hbefore, hr]
            exact ⟨_, _, fun m => waitFor_mono m hw⟩
          · have hw : waitFor env 0 start rel nt nr = some (nt + 1, nr, [.time (env.time nt)]) := by
              simp [waitFor, hbefore]
            exact ⟨0, _, fun m => waitFor_mono m hw⟩
      obtain ⟨f₀, ⟨nt', nr', evs⟩, hw⟩ := hwait
      obtain ⟨f₁, hf₁⟩ := replay_ends hclock hex2bin start ls nt' nr'
      obtain ⟨rest, hrest⟩ := Option.isSome_iff_exists.mp hf₁
      refine ⟨f₀ + f₁, ?_⟩
      unfold replay
      rw [if_pos hdir, hw f₁]
      cases hex2bin (cStr (scanDirective (l.drop 9)).1) with
      | none => rfl
      | some p => simp [Nat.add_comm f₀ f₁, replay_mono f₀ hrest]
    · obtain ⟨f, hf⟩ := replay_ends hclock hex2bin start ls nt nr
      exact ⟨f, by unfold replay; rwa [if_neg hdir]⟩

end running

/-! ### One timed line -/

/-- The line `telegram=<h>|+<r>`, with `r` written in decimal. -/
def telegramLine (h : List Char) (r : Nat) : List Char :=
  "telegram=".toList ++ h ++ '|' :: '+' :: Nat.toDigits 10 r

theorem digitChar_digit {d : Nat} (hd : d < 10) :
    (Nat.digitChar d).isDigit = true ∧ (Nat.digitChar d).toNat - '0'.toNat = d := by
  have h : ∀ d : Fin 10,
      (Nat.digitChar d).isDigit = true ∧ (Nat.digitChar d).toNat - '0'.toNat = d := by decide
  exact h ⟨d, hd⟩

/-- The digits `toDigits` writes read back, by `digitsValue`, as the number. -/
theorem toDigitsCore_digitsValue : ∀ (fuel n : Nat) (ds : List Char), n < fuel →
    (∀ c ∈ ds, c.isDigit) →
    (∀ c ∈ Nat.toDigitsCore 10 fuel n ds, c.isDigit) ∧
      digitsValue 0 (Nat.toDigitsCore 10 fuel n ds) = digitsValue n ds
  | 0, _, _, h, _ => absurd h (Nat.not_lt_zero _)
  | fuel + 1, n, ds, hn, hds => by
    obtain ⟨hdig, hval⟩ := digitChar_digit (Nat.mod_lt n (by decide : 10 > 0))
    rw [Nat.toDigitsCore]
    split_ifs with h0
    · refine ⟨?_, ?_⟩
      · simp only [List.mem_cons]
        rintro c (rfl | hc)
        · exact hdig
        · exact hds c hc
      · simp only [digitsValue, hdig, ite_true, hval, Nat.zero_mul, Nat.zero_add]
        rw [Nat.mod_eq_of_lt (by omega)]
    · have hdiv : n / 10 < fuel := by omega
      obtain ⟨hall, hv⟩ := toDigitsCore_digitsValue fuel (n / 10) (Nat.digitChar (n % 10) :: ds) hdiv (by
        simp only [List.mem_cons]
        rintro c (rfl | hc)
        · exact hdig
        · exact hds c hc)
      refine ⟨hall, ?_⟩
      rw [hv]
      simp only [digitsValue, hdig, ite_true, hval, Nat.div_add_mod']

theorem isSpace_of_isDigit {c : Char} (h : c.isDigit = true) : isSpace c = false := by
  simp only [isSpace, Bool.or_eq_false_iff, beq_eq_false_iff_ne, ne_eq]
  refine ⟨⟨⟨⟨⟨?_, ?_⟩, ?_⟩, ?_⟩, ?_⟩, ?_⟩ <;> rintro rfl <;> simp at h

/-- `atoi` reads back the decimal of any `r` within the range of `int`. -/
theorem atoi_toDigits {r : Nat} (hr : r < 2 ^ 31) : atoi (Nat.toDigits 10 r) = r := by
  obtain ⟨hall, hval⟩ := toDigitsCore_digitsValue (r + 1) r [] (Nat.lt_succ_self r) (by simp)
  simp only [digitsValue] at hval
  have hvalue : digitsValue 0 (Nat.toDigits 10 r) = r := hval
  have hdig : ∀ c ∈ Nat.toDigits 10 r, c.isDigit := hall
  have hconv : toInt32 (max longMin (min longMax (r : Int))) = r := by
    simp only [toInt32, longMax, longMin]; omega
  unfold atoi
  match hds : Nat.toDigits 10 r, hdig with
  | [], _ => simp_all [digitsValue]
  | c :: cs, hdig =>
    have hc := hdig c (List.mem_cons_self c cs)
    rw [List.dropWhile_cons_of_neg (by simp [isSpace_of_isDigit hc])]
    split
    · rename_i heq; cases heq; simp at hc
    · rename_i heq; cases heq; simp at hc
    · rw [← hds, hvalue, hconv]

theorem scanDirective_timed (h ds : List Char) (hh : ∀ c ∈ h, c ≠ '|' ∧ c ≠ '+') :
    scanDirective (h ++ '|' :: '+' :: ds) = (h, some (atoi ds)) := by
  induction h with
  | nil => simp [scanDirective]
  | cons c cs ih =>
    obtain ⟨h1, h2⟩ := hh c (List.mem_cons_self c cs)
    rw [List.cons_append, scanDirective, if_neg h1, if_neg h2,
      ih (fun c' hc' => hh c' (List.mem_cons_of_mem c hc'))]

/-- A replay of `telegram=<h>|+<r>` dispatches `hex2bin h` right after a clock
reading no earlier than `start + r`. -/
theorem replayed_telegramLine {hex2bin : List Char → Option (List UInt8)} {start : Int}
    {h : List Char} {r : Nat} {seg : List SimEvent} (hh : ∀ c ∈ h, c ≠ '|' ∧ c ≠ '+')
    (hr : r < 2 ^ 31) (hrep : Replayed hex2bin start (telegramLine h r) seg) :
    ∃ p waits t, hex2bin h = some p ∧ start + r ≤ t ∧ seg = waits ++ [.time t, .handleTelegram p] := by
  have hscan : scanDirective ((telegramLine h r).drop 9) = (h, some (r : Int)) := by
    have h9 : "telegram=".toList.length = 9 := rfl
    unfold telegramLine
    rw [List.append_assoc, List.drop_left' h9, scanDirective_timed h _ hh, atoi_toDigits hr]
  cases hrep with
  | other hdir =>
    refine absurd ?_ hdir
    unfold IsDirective telegramLine
    rw [List.append_assoc]
    exact List.take_left' rfl
  | @untimed _ _ hrel _ => simp [hscan] at hrel
  | @timed _ _ _ _ _ hrel hp _ ht =>
    rw [hscan] at hrel hp
    cases hrel
    exact ⟨_, _, _, hp, ht, rfl⟩

/-- **The replay of a script while the manager runs.**  For any script the
constructor collects, whose directives' hex is valid: once the clock goes past
every bound the replay ends; and every replay that ends dispatches, in line order,
exactly the directives, each once, with the payload `hex2bin` of its hex, a timed
one right after a clock reading no earlier than `start_time + r`, and then stops the
manager once.  In particular `telegram=<h>|+<r>`, for `r` within the range of
`int`, is dispatched as `hex2bin h` no earlier than `start_time + r`. -/
theorem simulate_replays_script (hex2bin : List Char → Option (List UInt8)) (env : SimEnv)
    (hex : List Char) (fileLines : List (List Char)) (running : ∀ n, env.isRunning n = true)
    (hvalid : ∀ l ∈ WMBusSimulator.lines hex fileLines, IsDirective l →
      ValidHex (scanDirective (l.drop 9)).1 ∧ (hex2bin (scanDirective (l.drop 9)).1).isSome) :
    ((∀ (T : Int) (n : Nat), ∃ k, n ≤ k ∧ T < env.time k) →
      ∃ fuel trace,
        WMBusSimulator.simulate hex2bin env fuel (WMBusSimulator.lines hex fileLines) = some trace) ∧
    (∀ fuel trace,
      WMBusSimulator.simulate hex2bin env fuel (WMBusSimulator.lines hex fileLines) = some trace →
      ∃ segs, trace = .time (env.time 0) :: (segs.flatten ++ [.stop]) ∧
        List.Forall₂ (Replayed hex2bin (env.time 0)) (WMBusSimulator.lines hex fileLines) segs) ∧
    (∀ (h : List Char) (r : Nat) (seg : List SimEvent), (∀ c ∈ h, c ≠ '|' ∧ c ≠ '+') →
      r < 2 ^ 31 → Replayed hex2bin (env.time 0) (telegramLine h r) seg →
      ∃ p waits t, hex2bin h = some p ∧ env.time 0 + r ≤ t ∧
        seg = waits ++ [.time t, .handleTelegram p]) := by
  refine ⟨fun hclock => ?_, fun fuel trace hsim => ?_, fun h r seg hh hr hrep =>
    replayed_telegramLine hh hr hrep⟩
  · obtain ⟨fuel, hf⟩ :=
      replay_ends running hclock hex2bin (env.time 0) (WMBusSimulator.lines hex fileLines) 1 0
    obtain ⟨trace, ht⟩ := Option.isSome_iff_exists.mp hf
    exact ⟨fuel, .time (env.time 0) :: trace, by simp [WMBusSimulator.simulate, ht]⟩
  · simp only [WMBusSimulator.simulate, Option.map_eq_some'] at hsim
    obtain ⟨rest, hreplay, rfl⟩ := hsim
    obtain ⟨segs, rfl, hsegs⟩ := replay_running running hex2bin fuel _ _ 1 0 rest hvalid hreplay
    exact ⟨segs, rfl, hsegs⟩

theorem simulate_replays_two_lines :
    (∀ n, (⟨fun n => n, fun _ => true⟩ : SimEnv).isRunning n = true) ∧
    (∀ l ∈ WMBusSimulator.lines "AA".toList ["telegram=BB|+2".toList, "# one".toList],
      IsDirective l →
        ValidHex (scanDirective (l.drop 9)).1 ∧ (hex2bin (scanDirective (l.drop 9)).1).isSome) ∧
    (((∀ (T : Int) (n : Nat), ∃ k, n ≤ k ∧ T < (⟨fun n => n, fun _ => true⟩ : SimEnv).time k) →
      ∃ fuel trace, WMBusSimulator.simulate hex2bin ⟨fun n => n, fun _ => true⟩ fuel
        (WMBusSimulator.lines "AA".toList ["telegram=BB|+2".toList, "# one".toList]) = some trace) ∧
    (∀ fuel trace, WMBusSimulator.simulate hex2bin ⟨fun n => n, fun _ => true⟩ fuel
        (WMBusSimulator.lines "AA".toList ["telegram=BB|+2".toList, "# one".toList]) = some trace →
      ∃ segs, trace = .time 0 :: (segs.flatten ++ [.stop]) ∧
        List.Forall₂ (Replayed hex2bin 0)
          (WMBusSimulator.lines "AA".toList ["telegram=BB|+2".toList, "# one".toList]) segs) ∧
    (∀ (h : List Char) (r : Nat) (seg : List SimEvent), (∀ c ∈ h, c ≠ '|' ∧ c ≠ '+') →
      r < 2 ^ 31 → Replayed hex2bin 0 (telegramLine h r) seg →
      ∃ p waits t, hex2bin h = some p ∧ (0 : Int) + r ≤ t ∧
        seg = waits ++ [.time t, .handleTelegram p])) :=
  have running : ∀ n, (⟨fun n => n, fun _ => true⟩ : SimEnv).isRunning n = true := fun _ => rfl
  have hvalid : ∀ l ∈ WMBusSimulator.lines "AA".toList ["telegram=BB|+2".toList, "# one".toList],
      IsDirective l →
        ValidHex (scanDirective (l.drop 9)).1 ∧ (hex2bin (scanDirective (l.drop 9)).1).isSome := by
    decide
  ⟨running, hvalid, simulate_replays_script hex2bin _ _ _ running hvalid⟩

/-- A relative time past the range of `int` is cut by `atoi`: `+4294967296` reads as
`0`, and the line is dispatched at the first clock reading, `2^32` seconds early. -/
theorem simulate_atoi_wraps :
    WMBusSimulator.simulate hex2bin ⟨fun _ => 0, fun _ => true⟩ 1
        [telegramLine "AA".toList (2 ^ 32)] =
      some [.time 0, .time 0, .handleTelegram [0xAA], .stop] := by
  decide

end Wmbusmeters
