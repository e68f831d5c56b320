import Mathlib.Data.List.Sort
import Wmbusmeters.Descriptors

/-
Finding the serial ports: `listSerialTTYs` on Linux.

`scandir` lists `/sys/class/tty/` in `sorty` order, which is `strcmp` order.  For
each entry but `.` and `..`, `check_if_serial` asks `lookup_device_driver` for the
driver behind `<entry>/device/driver`: an entry without one is not a serial port;
one driven by `serial8250` is put aside under its `/sys/class/tty/` path; any other
is a serial port and is listed as `/dev/<entry>`.  `check_serial8250s` then opens
each 8250 port put aside and lists those that answer `TIOCGSERIAL` with a known port
type.

`listSerialTTYs_eq` is the whole account: the serial ports in entry order, then the
8250 ports that pass the probe, whatever the system answers.  It shows what becomes
of the 8250 ports: they are opened, and listed, at their `/sys/class/tty/` path,
never as a `/dev` node.  That path names a directory of sysfs, not the port.

Names are lists of characters, one byte each for the ASCII names sysfs uses.
-/

namespace Wmbusmeters

/-- What the system answers to the scan: `scandir` of `/sys/class/tty/` (`none` when
it fails), whether `lstat` of a path succeeds and finds a symbolic link, what
`readlink` of a path returns (empty when it fails), and the probe of an 8250 port
opened at a path.  An entry name has at most 255 bytes (`NAME_MAX`); a link target
is taken to be shorter than the 1024 bytes `lookup_device_driver` reads it into, so
that the buffer keeps its terminating zero. -/
structure SysTTY where
  entries : Option (List (List Char))
  isLink : List Char → Bool
  readlink : List Char → List Char
  probe : List Char → PortProbe
  entries_short : ∀ names, entries = some names → ∀ name ∈ names, name.length ≤ 255
  readlink_short : ∀ path, (readlink path).length < 1024

/-- The directory `listSerialTTYs` scans. -/
def sysdir : List Char := "/sys/class/tty/".toList

/-- POSIX `basename` (`libgen.h`): the last component of a path, trailing slashes
ignored; `/` for a path of slashes only, `.` for the empty path. -/
def basename (path : List Char) : List Char :=
  let trimmed := (path.reverse.dropWhile (· = '/')).reverse
  if path = [] then ['.']
  else if trimmed = [] then ['/']
  else (trimmed.reverse.takeWhile (· ≠ '/')).reverse

/-- `lookup_device_driver(tty)`: the last component of the target of
`<tty>/device/driver` when `<tty>/device` is a symbolic link and `readlink` returns
something, else the empty string. -/
def lookupDeviceDriver (sys : SysTTY) (tty : List Char) : List Char :=
  if sys.isLink (tty ++ "/device".toList) then
    let target := sys.readlink (tty ++ "/device/driver".toList)
    if 0 < target.length then basename target else []
  else []

/-- `check_if_serial(tty, found_serials, found_8250s)`: the two lists grown by the
entry.  `strncpy` copies at most 1023 bytes of the path. -/
def checkIfSerial (sys : SysTTY) (found : List (List Char) × List (List Char))
    (tty : List Char) : List (List Char) × List (List Char) :=
  let driver := lookupDeviceDriver sys tty
  let dev := tty.take 1023
  if 0 < driver.length then
    if driver = "serial8250".toList then (found.1, found.2 ++ [dev])
    else (found.1 ++ [if sysdir.isPrefixOf dev then "/dev/".toList ++ dev.drop 15 else dev], found.2)
  else found

/-- `sorty`: `strcmp` of two entry names; only its sign matters. -/
def sorty : List Char → List Char → Int
  | [], [] => 0
  | [], _ :: _ => -1
  | _ :: _, [] => 1
  | a :: as, b :: bs => if a = b then sorty as bs else if a < b then -1 else 1

/-- The entries `listSerialTTYs` visits: the scanned names in `sorty` order, as
`scandir` sorts them, without `.` and `..`. -/
def visited (names : List (List Char)) : List (List Char) :=
  (names.insertionSort fun a b => sorty a b ≤ 0).filter
    fun name => !(name = "..".toList || name = ".".toList)

/-- `listSerialTTYs()` on Linux: the serial ports found, and the descriptor table
afterwards. -/
def listSerialTTYs (sys : SysTTY) (fds : List Nat) : List String × List Nat :=
  match sys.entries with
  | none => ([], fds)
  | some names =>
    let found := (visited names).foldl (fun found name => checkIfSerial sys found (sysdir ++ name))
      ([], [])
    checkSerial8250s (found.1.map String.mk) (found.2.map fun dev => (String.mk dev, sys.probe dev))
      fds

/-! ### The account -/

/-- An 8250 port is listed when it opens and answers `TIOCGSERIAL` with a known type. -/
def PortProbe.passes (p : PortProbe) : Bool := p.opens && p.ioctlOk && p.portKnown

/-- `check_serial8250s` appends the ports that pass the probe, in order. -/
theorem checkSerial8250s_found (found : List String) (ports : List (String × PortProbe))
    (fds : List Nat) :
    (checkSerial8250s found ports fds).1 = found ++ (ports.filter (·.2.passes)).map Prod.fst := by
  induction ports generalizing found fds with
  | nil => simp [checkSerial8250s]
  | cons q ports ih =>
    obtain ⟨dev, p⟩ := q
    have h0 : (0 : Int) ≤ lowestFree fds := by omega
    cases ho : p.opens <;> cases hi : p.ioctlOk <;> cases hk : p.portKnown <;>
      simp [checkSerial8250s, sysOpen, ho, hi, hk, h0, ih, PortProbe.passes]

/-- The path of an entry survives `strncpy`, and `/dev/` replaces its directory. -/
theorem sysdir_entry {name : List Char} (h : name.length ≤ 255) :
    (sysdir ++ name).take 1023 = sysdir ++ name ∧
      (if sysdir.isPrefixOf (sysdir ++ name) then "/dev/".toList ++ (sysdir ++ name).drop 15
        else sysdir ++ name) = "/dev/".toList ++ name := by
  have hlen : sysdir.length = 15 := rfl
  refine ⟨List.take_of_length_le (by simp [hlen]; omega), ?_⟩
  rw [if_pos (by simp [List.isPrefixOf_iff_prefix]), ← hlen, List.drop_left]

/-- The loop over the entries: the serial ports in order, and the 8250 ports in
order under their `/sys/class/tty/` path. -/
theorem foldl_checkIfSerial (sys : SysTTY) (names : List (List Char))
    (h : ∀ name ∈ names, name.length ≤ 255) (found : List (List Char) × List (List Char)) :
    names.foldl (fun found name => checkIfSerial sys found (sysdir ++ name)) found =
      (found.1 ++ (names.filter fun n => 0 < (lookupDeviceDriver sys (sysdir ++ n)).length ∧
          lookupDeviceDriver sys (sysdir ++ n) ≠ "serial8250".toList).map ("/dev/".toList ++ ·),
        found.2 ++ (names.filter fun n =>
          lookupDeviceDriver sys (sysdir ++ n) = "serial8250".toList).map (sysdir ++ ·)) := by
  induction names generalizing found with
  | nil => simp
  | cons n names ih =>
    obtain ⟨htake, hdev⟩ := sysdir_entry (h n (List.mem_cons_self _ _))
    rw [List.foldl_cons, ih (fun m hm => h m (List.mem_cons_of_mem _ hm))]
    simp only [checkIfSerial, htake, hdev, List.filter_cons]
    generalize lookupDeviceDriver sys (sysdir ++ n) = drv
    have h8pos : 0 < "serial8250".toList.length := by decide
    by_cases h8 : drv = "serial8250".toList
    · subst h8
      simp only [h8pos, if_true, decide_True, ne_eq, not_true_eq_false, and_false, decide_False,
        Bool.false_eq_true, ite_false, List.map_cons, List.append_assoc, List.singleton_append]
    · by_cases hpos : 0 < drv.length
      · simp only [hpos, h8, if_true, if_false, decide_True, decide_False, ne_eq, not_false_eq_true,
          and_true, Bool.false_eq_true, ite_false, List.map_cons, List.append_assoc,
          List.singleton_append]
      · simp only [hpos, h8, if_false, decide_False, false_and, Bool.false_eq_true, ite_false]

/-- **Which ports `listSerialTTYs` lists.**  Whatever the system answers, when
`scandir` succeeds: `/dev/<entry>` for every visited entry whose driver is found and
is not `serial8250`, in entry order, then `/sys/class/tty/<entry>` for every
`serial8250` entry whose probe at that same path opens and answers `TIOCGSERIAL`
with a known type.  An 8250 port is never listed as a `/dev` node. -/
theorem listSerialTTYs_eq (sys : SysTTY) (fds : List Nat) {names : List (List Char)}
    (h : sys.entries = some names) :
    (listSerialTTYs sys fds).1 =
      ((visited names).filter fun n => 0 < (lookupDeviceDriver sys (sysdir ++ n)).length ∧
          lookupDeviceDriver sys (sysdir ++ n) ≠ "serial8250".toList).map
        (fun n => String.mk ("/dev/".toList ++ n)) ++
      ((visited names).filter fun n => lookupDeviceDriver sys (sysdir ++ n) = "serial8250".toList ∧
          (sys.probe (sysdir ++ n)).passes).map (fun n => String.mk (sysdir ++ n)) := by
  have hshort : ∀ n ∈ visited names, n.length ≤ 255 := fun n hn =>
    sys.entries_short names h n ((List.perm_insertionSort _ names).mem_iff.mp (List.mem_filter.mp hn).1)
  simp only [listSerialTTYs, h, foldl_checkIfSerial sys _ hshort, checkSerial8250s_found,
    List.nil_append, List.map_map, List.filter_map, List.filter_filter]
  congr 2
  refine List.filter_congr fun n _ => ?_
  simp only [Function.comp, Bool.decide_and, Bool.decide_eq_true, Bool.and_comm]

/-- A USB serial adapter and an 8250 port, where only device nodes open: the 8250
port is probed at `/sys/class/tty/ttyS0`, which does not open, so the only port
listed is `/dev/ttyUSB0`. -/
theorem listSerialTTYs_eq_usb_and_8250 :
    let sys : SysTTY := ⟨some ["ttyUSB0".toList, ".".toList, "tty0".toList, "..".toList, "ttyS0".toList],
      fun p => p = "/sys/class/tty/ttyUSB0/device".toList || p = "/sys/class/tty/ttyS0/device".toList,
      fun p => if p = "/sys/class/tty/ttyUSB0/device/driver".toList then
          "../../../../bus/usb-serial/drivers/ftdi_sio".toList
        else if p = "/sys/class/tty/ttyS0/device/driver".toList then
          "../../../bus/platform/drivers/serial8250".toList
        else [],
      fun p => ⟨p.take 5 = "/dev/".toList, true, true⟩,
      fun names h => by cases h; decide,
      fun p => by dsimp only; split_ifs <;> decide⟩
    sys.entries = some ["ttyUSB0".toList, ".".toList, "tty0".toList, "..".toList, "ttyS0".toList] ∧
      (listSerialTTYs sys [0, 1, 2]).1 = ["/dev/ttyUSB0"] := by
  intro sys
  refine ⟨rfl, ?_⟩
  rw [listSerialTTYs_eq sys _ rfl]
  decide

end Wmbusmeters
