import Mathlib.Data.List.Basic
/-
The heat meter driver `MeterCompact5`: its `processContent`, and the dispatch that
hands it telegrams.

The meter wraps a proprietary payload in a wM-Bus telegram: the energy of the
previous billing period is the little-endian word at payload offsets 3 and 4, that
of the current period the word at 7 and 8, in kWh.  `processContent` copies the
payload out of the telegram and reads those four bytes with `vector::operator[]`,
which checks no index.  For each word it adds an entry to the telegram's explanation
trace, the word's offset in the frame and its two bytes, and annotates it through
`addMoreExplanation` with the energy it read.  Nothing on the way looks at the
payload's length: the dispatch runs `processContent` of every meter whose address
pattern matches the telegram's address.

A read past the end of the vector reads whatever memory lies there.  The model
makes that memory an argument, `beyond`, and asks which results depend on it.  On
a payload of at least 9 bytes none does (`dispatch_reads_payload`), and every
matching meter records the spec's reading of the payload
(`dispatch_records_reading`); on a shorter one, dispatched to a `MeterCompact5`,
the energies the meter records do (`dispatch_reads_inside_payload_iff`).

`addMoreExplanation` annotates every entry at its offset, so when several meters
match one telegram each annotation also lands on the entries the meters before it
added: the first meter's two entries carry the annotation once per matching meter.
-/

namespace Wmbusmeters

/-- Modelled from the spec: one entry of a telegram's explanation trace, a frame
offset, the bytes its hex text renders, and the annotation drivers add to it. -/
structure Explanation where
  offset : Nat
  hex : List UInt8
  annotation : String := ""
  deriving DecidableEq, Repr

/-- Modelled from the spec: the fields of a decoded `Telegram` that the driver and
the dispatch use (the class is not in the sources).  `address` is the meter address
as printed, `parsed` the bytes parsed before the payload, `payload` the plaintext
payload, and `explanations` the explanation trace. -/
structure Telegram where
  address : String
  parsed : List UInt8
  payload : List UInt8
  explanations : List Explanation := []
  deriving DecidableEq, Repr

/-- Modelled from the spec: `Telegram::extractPayload` copies out the plaintext
payload. -/
def Telegram.extractPayload (t : Telegram) : List UInt8 := t.payload

/-- The entries of a trace, with `text` appended to the annotation of each one at
offset `pos`. -/
def annotateAt (pos : Nat) (text : String) (es : List Explanation) : List Explanation :=
  es.map fun e => if e.offset = pos then { e with annotation := e.annotation ++ text } else e

/-- Modelled from the spec: `Telegram::addMoreExplanation(pos, fmt, ...)` appends the
formatted text to the annotation of each entry of the trace at offset `pos`. -/
def Telegram.addMoreExplanation (t : Telegram) (pos : Nat) (text : String) : Telegram :=
  { t with explanations := annotateAt pos text t.explanations }

/-- `%f` of a double that holds the whole number `n`: its digits and six decimals. -/
def formatF (n : Nat) : String := toString n ++ ".000000"

/-- The annotation for the previous period's energy. -/
def prevText (prev : Nat) : String :=
  " energy used in previous billing period (" ++ formatF prev ++ " KWH)"

/-- The annotation for the current period's energy. -/
def currText (curr : Nat) : String :=
  " energy used in current billing period (" ++ formatF curr ++ " KWH)"

/-- `content[i]` on a vector: the byte at `i`, and past the end whatever memory
holds there, `beyond i`. -/
def vectorAt (content : List UInt8) (beyond : Nat → UInt8) (i : Nat) : UInt8 :=
  content.getD i (beyond i)

/-- The state of a `MeterCompact5`: the three energies it prints, in kWh.  The
driver computes them as doubles from two bytes each, which hold them exactly. -/
structure MeterCompact5 where
  totalEnergyKwh : Nat := 0
  currEnergyKwh : Nat := 0
  prevEnergyKwh : Nat := 0
  deriving DecidableEq, Repr

/-- `MeterCompact5::processContent`: the meter's new energies, and the telegram with
an annotated entry in its trace for each of the two words it reads.  The map
`vendor_values` it fills is local and never read. -/
def MeterCompact5.processContent (_m : MeterCompact5) (t : Telegram) (beyond : Nat → UInt8) :
    MeterCompact5 × Telegram :=
  let content := t.extractPayload
  let prevLo := vectorAt content beyond 3
  let prevHi := vectorAt content beyond 4
  let prev := 256 * prevHi.toNat + prevLo.toNat
  let offset := t.parsed.length + 3
  let t := { t with explanations := t.explanations ++ [(⟨offset, [prevLo, prevHi], ""⟩ : Explanation)] }
  let t := t.addMoreExplanation offset (prevText prev)
  let currLo := vectorAt content beyond 7
  let currHi := vectorAt content beyond 8
  let curr := 256 * currHi.toNat + currLo.toNat
  let offset := t.parsed.length + 7
  let t := { t with explanations := t.explanations ++ [(⟨offset, [currLo, currHi], ""⟩ : Explanation)] }
  let t := t.addMoreExplanation offset (currText curr)
  (⟨prev + curr, curr, prev⟩, t)

/-- The spec's reading of a Compact5 payload: the little-endian words at offsets 3
and 7 are the energies of the previous and of the current billing period in kWh,
and the total is their sum. -/
def compact5Reading (payload : List UInt8) : MeterCompact5 :=
  let word (i : Nat) := 256 * (payload.getD (i + 1) 0).toNat + (payload.getD i 0).toNat
  ⟨word 3 + word 7, word 7, word 3⟩

/-- Modelled from the spec: an address pattern matches an address nibble by
nibble, `*` matching any nibble. -/
def addressMatches : List Char → List Char → Bool
  | [], [] => true
  | p :: ps, a :: as => (p == '*' || p == a) && addressMatches ps as
  | _, _ => false

/-- A configured Compact5 meter: its address patterns and its state. -/
structure Compact5Meter where
  ids : List String
  state : MeterCompact5 := {}
  deriving DecidableEq, Repr

/-- Whether one of the meter's patterns matches an address. -/
def Compact5Meter.matches (m : Compact5Meter) (address : String) : Bool :=
  m.ids.any fun id => addressMatches id.toList address.toList

/-- Modelled from the spec: the dispatch of a decoded telegram runs
`processContent` of every meter whose pattern matches its address, in order, each
on the telegram as the one before left it. -/
def dispatch (t : Telegram) (beyond : Nat → UInt8) :
    List Compact5Meter → List Compact5Meter × Telegram
  | [] => ([], t)
  | m :: ms =>
    if m.matches t.address then
      let (s, t₁) := m.state.processContent t beyond
      let (ms', t₂) := dispatch t₁ beyond ms
      ({ m with state := s } :: ms', t₂)
    else
      let (ms', t₂) := dispatch t beyond ms
      (m :: ms', t₂)

/-! ### Reads inside the payload -/

theorem vectorAt_of_lt {content : List UInt8} {i : Nat} (h : i < content.length)
    (beyond : Nat → UInt8) : vectorAt content beyond i = content.getD i 0 := by
  simp [vectorAt, List.getD_eq_getElem?_getD, List.getElem?_eq_getElem h]

theorem vectorAt_of_le {content : List UInt8} {i : Nat} (h : content.length ≤ i)
    (beyond : Nat → UInt8) : vectorAt content beyond i = beyond i := by
  simp [vectorAt, List.getD_eq_getElem?_getD, List.getElem?_eq_none h]

/-- `processContent` leaves the telegram's address, parsed bytes and payload as
they were. -/
@[simp] theorem processContent_address (m : MeterCompact5) (t : Telegram) (beyond : Nat → UInt8) :
    (m.processContent t beyond).2.address = t.address := rfl

@[simp] theorem processContent_parsed (m : MeterCompact5) (t : Telegram) (beyond : Nat → UInt8) :
    (m.processContent t beyond).2.parsed = t.parsed := rfl

@[simp] theorem processContent_payload (m : MeterCompact5) (t : Telegram) (beyond : Nat → UInt8) :
    (m.processContent t beyond).2.payload = t.payload := rfl

/-! ### Annotations -/

@[simp] theorem annotateAt_append (pos : Nat) (text : String) (es fs : List Explanation) :
    annotateAt pos text (es ++ fs) = annotateAt pos text es ++ annotateAt pos text fs :=
  List.map_append _ _ _

@[simp] theorem annotateAt_empty (pos : Nat) (es : List Explanation) : annotateAt pos "" es = es := by
  simp [annotateAt]

/-- Two annotations at one offset are their texts, one after the other. -/
theorem annotateAt_annotateAt (pos : Nat) (x y : String) (es : List Explanation) :
    annotateAt pos y (annotateAt pos x es) = annotateAt pos (x ++ y) es := by
  simp only [annotateAt, List.map_map]
  refine List.map_congr_left fun e _ => ?_
  by_cases he : e.offset = pos <;> simp [he, String.append_assoc]

/-- Annotations at two offsets do not meet. -/
theorem annotateAt_comm {pos pos' : Nat} (hne : pos ≠ pos') (x y : String) (es : List Explanation) :
    annotateAt pos x (annotateAt pos' y es) = annotateAt pos' y (annotateAt pos x es) := by
  simp only [annotateAt, List.map_map]
  refine List.map_congr_left fun e _ => ?_
  by_cases he : e.offset = pos <;> by_cases he' : e.offset = pos'
  · exact absurd (he.symm.trans he') hne
  all_goals simp [he, he', hne, Ne.symm hne]

/-- The text `n` times over. -/
def repeatText (text : String) : Nat → String
  | 0 => ""
  | n + 1 => text ++ repeatText text n

/-- The trace after `k` meters have each read the words `lo` and `hi` at offsets
`o + 3` and `o + 7` and annotated them with `prev` and `curr`: every entry already at
those offsets annotated `k` times over, then the meters' entries in order, those of
the `i`-th of `k` meters annotated `k - i` times. -/
def readTrace (o : Nat) (lo hi : List UInt8) (prev curr : String) (k : Nat)
    (es : List Explanation) : List Explanation :=
  annotateAt (o + 7) (repeatText curr k) (annotateAt (o + 3) (repeatText prev k) es) ++
    ((List.range k).reverse.map fun j =>
      [⟨o + 3, lo, repeatText prev (j + 1)⟩, ⟨o + 7, hi, repeatText curr (j + 1)⟩]).flatten

theorem readTrace_zero (o : Nat) (lo hi : List UInt8) (prev curr : String)
    (es : List Explanation) : readTrace o lo hi prev curr 0 es = es := by
  simp [readTrace, repeatText]

/-- One meter more: the trace one meter leaves, read by `k` more, is the trace of
`k + 1` meters. -/
theorem readTrace_succ (o : Nat) (lo hi : List UInt8) (prev curr : String) (k : Nat)
    (es : List Explanation) :
    readTrace o lo hi prev curr k
        (annotateAt (o + 7) curr (annotateAt (o + 3) prev es) ++
          [⟨o + 3, lo, prev⟩, ⟨o + 7, hi, curr⟩]) =
      readTrace o lo hi prev curr (k + 1) es := by
  have hne : o + 3 ≠ o + 7 := by omega
  simp only [readTrace, annotateAt_append, List.range_succ, List.reverse_append,
    List.reverse_singleton, List.singleton_append, List.map_cons, List.flatten_cons,
    List.append_assoc]
  rw [annotateAt_comm hne _ curr, annotateAt_annotateAt, annotateAt_annotateAt]
  simp [annotateAt, repeatText, hne]

/-- On a payload of at least 9 bytes `processContent` records the spec's reading,
and adds two entries to the trace, the two words it read, annotated with the energies
it read; every entry already at their offsets gets the same annotation. -/
theorem processContent_of_le (m : MeterCompact5) (t : Telegram) (h : 9 ≤ t.payload.length)
    (beyond : Nat → UInt8) :
    m.processContent t beyond =
      (compact5Reading t.payload,
        { t with
          explanations :=
            annotateAt (t.parsed.length + 7) (currText (compact5Reading t.payload).currEnergyKwh)
                (annotateAt (t.parsed.length + 3) (prevText (compact5Reading t.payload).prevEnergyKwh)
                  t.explanations) ++
              [⟨t.parsed.length + 3, [t.payload.getD 3 0, t.payload.getD 4 0],
                  prevText (compact5Reading t.payload).prevEnergyKwh⟩,
                ⟨t.parsed.length + 7, [t.payload.getD 7 0, t.payload.getD 8 0],
                  currText (compact5Reading t.payload).currEnergyKwh⟩] }) := by
  have hne : t.parsed.length + 3 ≠ t.parsed.length + 7 := by omega
  simp only [MeterCompact5.processContent, Telegram.extractPayload, Telegram.addMoreExplanation,
    compact5Reading, vectorAt_of_lt (show 3 < t.payload.length by omega),
    vectorAt_of_lt (show 4 < t.payload.length by omega),
    vectorAt_of_lt (show 7 < t.payload.length by omega),
    vectorAt_of_lt (show 8 < t.payload.length by omega), annotateAt_append]
  simp [annotateAt, hne]

/-- On a payload of at least 9 bytes `processContent` reads only the payload. -/
theorem processContent_reads_payload (m : MeterCompact5) (t : Telegram) (h : 9 ≤ t.payload.length)
    (beyond beyond' : Nat → UInt8) :
    m.processContent t beyond = m.processContent t beyond' := by
  rw [processContent_of_le m t h, processContent_of_le m t h]

/-- The spec's Compact5 scenario: words 0x0064 at offsets 3 and 4 and 0x00C8 at 7
and 8 read as 100 and 200 kWh. -/
example : (MeterCompact5.processContent {} ⟨"12345678", [], [0, 0, 0, 0x64, 0, 0, 0, 0xC8, 0],
    []⟩ fun _ => 0).1 = ⟨300, 200, 100⟩ := by
  decide

/-- On a payload of at most 8 bytes the current period's high byte is read past
the end. -/
theorem processContent_curr_past (m : MeterCompact5) (t : Telegram) (h : t.payload.length ≤ 8)
    (beyond : Nat → UInt8) :
    (m.processContent t beyond).1.currEnergyKwh =
      256 * (beyond 8).toNat + (vectorAt t.payload beyond 7).toNat := by
  simp only [MeterCompact5.processContent, Telegram.extractPayload, vectorAt_of_le h]

/-- Over every list of meters, a payload of at least 9 bytes makes the dispatch
independent of the memory past it. -/
theorem dispatch_reads_payload (meters : List Compact5Meter) (t : Telegram)
    (h : 9 ≤ t.payload.length) (beyond beyond' : Nat → UInt8) :
    dispatch t beyond meters = dispatch t beyond' meters := by
  induction meters generalizing t with
  | nil => rfl
  | cons m ms ih =>
    have h₁ : 9 ≤ (m.state.processContent t beyond').2.payload.length := by simpa using h
    simp only [dispatch, processContent_reads_payload m.state t h beyond beyond', ih t h, ih _ h₁]

/-- With a short payload and a matching meter, memory past the payload of zeros or
of ones gives the first matching meter different energies. -/
theorem dispatch_depends_past_payload (meters : List Compact5Meter) (t : Telegram)
    (h : t.payload.length < 9) (hm : ∃ m ∈ meters, m.matches t.address) :
    dispatch t (fun _ => 0) meters ≠ dispatch t (fun _ => 1) meters := by
  induction meters with
  | nil => simp at hm
  | cons m ms ih =>
    by_cases hmt : m.matches t.address
    · -- the meter reads byte 8 past the payload: its current energy is below 256
      -- with zeros there and at least 256 with ones
      intro heq
      have hhead := congrArg (fun r => (r.1.head?.map (·.state.currEnergyKwh))) heq
      simp [dispatch, hmt, processContent_curr_past _ t (by omega)] at hhead
      have hlo : (vectorAt t.payload (fun _ => 0) 7).toNat < 256 := UInt8.toNat_lt_size _
      omega
    · obtain ⟨m', hm', hmt'⟩ := hm
      have hms : ∃ m ∈ ms, m.matches t.address :=
        ⟨m', (List.mem_cons.mp hm').resolve_left (by rintro rfl; exact hmt hmt'), hmt'⟩
      intro heq
      simp only [dispatch, hmt, if_false, Bool.false_eq_true, Prod.mk.injEq, List.cons.injEq,
        true_and] at heq
      exact ih hms (Prod.ext heq.1 heq.2)

/-- **The dispatch reads a Compact5 telegram inside its payload exactly when the
payload has 9 bytes.**  For every telegram with a Compact5 meter matching its
address, the meters' energies and the telegram that come out of the dispatch are
the same whatever memory lies past the payload if and only if the payload holds at
least 9 bytes: `processContent` reads offsets 3, 4, 7 and 8 and nothing checks the
length first. -/
theorem dispatch_reads_inside_payload_iff (meters : List Compact5Meter) (t : Telegram)
    (hm : ∃ m ∈ meters, m.matches t.address) :
    (∀ beyond beyond', dispatch t beyond meters = dispatch t beyond' meters) ↔
      9 ≤ t.payload.length := by
  refine ⟨fun hall => ?_, dispatch_reads_payload meters t⟩
  by_contra hlt
  exact dispatch_depends_past_payload meters t (by omega) hm (hall _ _)

/-- A meter at address 12345678 and one at 8765432*, and a telegram from 12345678
with a 9-byte payload. -/
theorem dispatch_reads_inside_payload_iff_nine_bytes :
    (∃ m ∈ [⟨["12345678"], {}⟩, ⟨["8765432*"], {}⟩], Compact5Meter.matches m "12345678") ∧
    ((∀ beyond beyond', dispatch ⟨"12345678", [], [0, 0, 0, 0x64, 0, 0, 0, 0xC8, 0], []⟩ beyond
        [⟨["12345678"], {}⟩, ⟨["8765432*"], {}⟩] =
      dispatch ⟨"12345678", [], [0, 0, 0, 0x64, 0, 0, 0, 0xC8, 0], []⟩ beyond'
        [⟨["12345678"], {}⟩, ⟨["8765432*"], {}⟩]) ↔
      9 ≤ [(0 : UInt8), 0, 0, 0x64, 0, 0, 0, 0xC8, 0].length) :=
  ⟨⟨_, List.mem_cons_self _ _, by decide⟩,
    dispatch_reads_inside_payload_iff _ _ ⟨_, List.mem_cons_self _ _, by decide⟩⟩

/-! ### What the dispatch records -/

/-- **A well-formed telegram is read as the spec reads it.**  For every list of
meters and every telegram whose payload has at least 9 bytes, the dispatch gives each
meter matching the telegram's address the spec's reading of the payload and leaves
every other meter as it was.  Each matching meter adds to the explanation trace the
two words read, at their frame offsets, annotated with the energies read, and
annotates every entry already at those offsets: with `k` matching meters, the entries
that were there get each annotation `k` times, and those of the `i`-th meter
`k - i` times. -/
theorem dispatch_records_reading (meters : List Compact5Meter) (t : Telegram)
    (h : 9 ≤ t.payload.length) (beyond : Nat → UInt8) :
    dispatch t beyond meters =
      (meters.map fun m =>
          if m.matches t.address then { m with state := compact5Reading t.payload } else m,
        { t with
          explanations :=
            readTrace t.parsed.length [t.payload.getD 3 0, t.payload.getD 4 0]
              [t.payload.getD 7 0, t.payload.getD 8 0]
              (prevText (compact5Reading t.payload).prevEnergyKwh)
              (currText (compact5Reading t.payload).currEnergyKwh)
              (meters.filter (·.matches t.address)).length t.explanations }) := by
  induction meters generalizing t with
  | nil => simp [dispatch, readTrace_zero]
  | cons m ms ih =>
    by_cases hm : m.matches t.address
    · have h₁ : 9 ≤ (m.state.processContent t beyond).2.payload.length := h
      simp only [dispatch, hm, if_true]
      rw [ih _ h₁, processContent_of_le m.state t h]
      simp [hm, readTrace_succ]
    · simp only [dispatch, hm, if_false, Bool.false_eq_true]
      rw [ih t h]
      simp [hm]

/-- The spec's scenario at the meter for 12345678: 100 kWh in the previous period,
200 in the current one; the meter for 8765432* is left alone. -/
theorem dispatch_records_reading_scenario :
    let t : Telegram := ⟨"12345678", [], [0, 0, 0, 0x64, 0, 0, 0, 0xC8, 0], []⟩
    let meters : List Compact5Meter := [⟨["12345678"], {}⟩, ⟨["8765432*"], {}⟩]
    9 ≤ t.payload.length ∧
      dispatch t (fun _ => 0) meters =
        (meters.map fun m =>
            if m.matches t.address then { m with state := compact5Reading t.payload } else m,
          { t with
            explanations :=
              readTrace t.parsed.length [t.payload.getD 3 0, t.payload.getD 4 0]
                [t.payload.getD 7 0, t.payload.getD 8 0]
                (prevText (compact5Reading t.payload).prevEnergyKwh)
                (currText (compact5Reading t.payload).currEnergyKwh)
                (meters.filter (·.matches t.address)).length t.explanations }) := by
  intro t meters
  exact ⟨by decide, dispatch_records_reading meters t (by decide) _⟩

/-! ### A telegram with no payload -/

/-- **An empty payload is read past its end.**  A telegram from 12345678 whose
payload is empty is handed to the Compact5 meter configured for 12345678, whose
`processContent` reads offsets 3, 4, 7 and 8 all past the end: with zeros there
the meter records 0 kWh, with ones 257 kWh for each period and 514 in total. -/
theorem processContent_reads_past_empty_payload :
    (dispatch ⟨"12345678", [], [], []⟩ (fun _ => 0) [⟨["12345678"], {}⟩]).1 =
        [⟨["12345678"], ⟨0, 0, 0⟩⟩] ∧
      (dispatch ⟨"12345678", [], [], []⟩ (fun _ => 1) [⟨["12345678"], {}⟩]).1 =
        [⟨["12345678"], ⟨514, 257, 257⟩⟩] := by
  decide

end Wmbusmeters
