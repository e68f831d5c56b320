import Mathlib.Data.List.Basic
import Mathlib.Data.List.Nodup

/-
The `status()` text of the heat meter drivers `MeterMultical302` and `MeterMultical603`.

`MeterMultical302::status` and `MeterMultical603::status` test the bits of
`info_codes_` in order, append the text of each bit that is set (a name and one
space), and drop the final space with `pop_back`.  They differ only in their
tables, so both are `infoCodesStatus` applied to their own table; the 302's table
names bit 64, which has no `#define`, `UNKNOWN_64 `.

`infoCodesStatus_data` says what the loop and the `pop_back` build: the texts of
the set bits run together, less the last character.  For a table of words, each a
name and one space with no other space, that is the names joined by single spaces
(`infoCodesStatus_data_words`), so splitting the status at its spaces gives the
names back (`status_splitOn`).  When every bit of the byte has a name of its own,
as in both tables, the status text loses nothing: it is empty exactly when no
code is set, and two codes with the same status are equal (`status_lossless`).
-/

namespace Wmbusmeters

/-- `status()` of a meter that reads `infoCodes` against `flags`, each a bit and the
text appended when it is set. -/
def infoCodesStatus (flags : List (UInt8 × String)) (infoCodes : UInt8) : String :=
  let s := flags.foldl (fun s f => if infoCodes &&& f.1 != 0 then s ++ f.2 else s) ""
  if s.length > 0 then ⟨s.data.dropLast⟩ else s

/-- `MeterMultical302::status`. -/
def MeterMultical302.status (infoCodes : UInt8) : String :=
  infoCodesStatus [(1, "VOLTAGE_INTERRUPTED "), (2, "WRONG_FLOW_DIRECTION "),
    (4, "SENSOR_T2_OUT_OF_RANGE "), (8, "SENSOR_T1_OUT_OF_RANGE "),
    (16, "FLOW_SENSOR_WEAK_OR_AIR "), (32, "TEMP_DIFF_WRONG_POLARITY "), (64, "UNKNOWN_64 "),
    (128, "VOLTAGE_TOO_LOW ")] infoCodes

/-- `MeterMultical603::status`. -/
def MeterMultical603.status (infoCodes : UInt8) : String :=
  infoCodesStatus [(1, "VOLTAGE_INTERRUPTED "), (2, "LOW_BATTERY_LEVEL "),
    (4, "EXTERNAL_ALARM "), (8, "SENSOR_T1_ABOVE_MEASURING_RANGE "),
    (16, "SENSOR_T2_ABOVE_MEASURING_RANGE "), (32, "SENSOR_T1_BELOW_MEASURING_RANGE "),
    (64, "SENSOR_T2_BELOW_MEASURING_RANGE "), (128, "TEMP_DIFF_WRONG_POLARITY ")] infoCodes

/-- The texts of the bits of `flags` set in `infoCodes`, in table order. -/
def setTexts (flags : List (UInt8 × String)) (infoCodes : UInt8) : List String :=
  (flags.filter fun f => infoCodes &&& f.1 != 0).map (·.2)

/-! ### What `status()` builds -/

theorem foldl_status_data (flags : List (UInt8 × String)) (c : UInt8) (acc : String) :
    (flags.foldl (fun s f => if c &&& f.1 != 0 then s ++ f.2 else s) acc).data =
      acc.data ++ ((setTexts flags c).map String.data).flatten := by
  induction flags generalizing acc with
  | nil => simp [setTexts]
  | cons f fs ih =>
    rw [List.foldl_cons, ih]
    by_cases hf : (c &&& f.1 != 0) = true <;>
      simp [setTexts, List.filter_cons, hf, String.data_append]

/-- **What `status()` builds**: the texts of the set bits run together, less the
last character. -/
theorem infoCodesStatus_data (flags : List (UInt8 × String)) (c : UInt8) :
    (infoCodesStatus flags c).data = ((setTexts flags c).map String.data).flatten.dropLast := by
  have h := foldl_status_data flags c ""
  rw [show ("" : String).data = [] from rfl, List.nil_append] at h
  unfold infoCodesStatus
  dsimp only
  split_ifs with hlen
  · exact congrArg List.dropLast h
  · have hnil : ((setTexts flags c).map String.data).flatten = [] := by
      rw [← h]
      exact List.eq_nil_of_length_eq_zero (Nat.eq_zero_of_not_pos hlen)
    rw [h, hnil]
    rfl

/-- Each part followed by `x`, run together, less the last `x`: the parts joined by
`x`. -/
theorem flatten_map_append_dropLast {α : Type} (x : α) :
    ∀ ls : List (List α), (ls.map (· ++ [x])).flatten.dropLast = [x].intercalate ls
  | [] => rfl
  | [a] => by simp [List.intercalate]
  | a :: b :: ls => by
    rw [List.map_cons, List.flatten_cons, List.dropLast_append_of_ne_nil _ (by simp),
      flatten_map_append_dropLast x (b :: ls)]
    simp [List.intercalate, List.intersperse_cons_cons]

/-- A table whose texts are words: a name, not empty and with no space, then one
space. -/
def WordTable (flags : List (UInt8 × String)) : Prop :=
  ∀ f ∈ flags, f.2.data.getLast? = some ' ' ∧ f.2.data.dropLast ≠ [] ∧ ' ' ∉ f.2.data.dropLast

/-- The names of the set bits: their texts less the space. -/
def setNames (flags : List (UInt8 × String)) (c : UInt8) : List (List Char) :=
  (setTexts flags c).map (·.data.dropLast)

section Words

variable {flags : List (UInt8 × String)} (hw : WordTable flags)
include hw

theorem setTexts_words (c : UInt8) :
    (setTexts flags c).map String.data = (setNames flags c).map (· ++ [' ']) := by
  simp only [setNames, List.map_map]
  refine List.map_congr_left fun t ht => ?_
  obtain ⟨f, hf, rfl⟩ := List.mem_map.mp ht
  exact (List.dropLast_append_getLast? ' ' (hw f (List.mem_filter.mp hf).1).1).symm

theorem setNames_words (c : UInt8) : ∀ n ∈ setNames flags c, n ≠ [] ∧ ' ' ∉ n := by
  intro n hn
  obtain ⟨t, ht, rfl⟩ := List.mem_map.mp hn
  obtain ⟨f, hf, rfl⟩ := List.mem_map.mp ht
  exact (hw f (List.mem_filter.mp hf).1).2

/-- For a table of words, `status()` is the names of the set bits joined by single
spaces. -/
theorem infoCodesStatus_data_words (c : UInt8) :
    (infoCodesStatus flags c).data = [' '].intercalate (setNames flags c) := by
  rw [infoCodesStatus_data, setTexts_words hw, flatten_map_append_dropLast]

/-- The status is empty exactly when no bit of the table is set. -/
theorem status_eq_empty_iff (c : UInt8) :
    infoCodesStatus flags c = "" ↔ setTexts flags c = [] := by
  have hdata : infoCodesStatus flags c = "" ↔ [' '].intercalate (setNames flags c) = [] := by
    rw [← infoCodesStatus_data_words hw]
    exact ⟨congrArg String.data, String.ext⟩
  rw [hdata]
  constructor
  · intro h
    cases hn : setNames flags c with
    | nil => simpa [setNames] using hn
    | cons n ns =>
      have hne := (setNames_words hw c n (by simp [hn])).1
      rw [hn] at h
      cases ns <;> simp_all [List.intercalate, List.intersperse_cons_cons]
  · intro h
    simp [setNames, h, List.intercalate]

/-- The names of the set bits, joined by spaces, split back at the spaces. -/
theorem splitOn_setNames (c : UInt8) (hset : setTexts flags c ≠ []) :
    ([' '].intercalate (setNames flags c)).splitOn ' ' = setNames flags c :=
  List.splitOn_intercalate _ _ (fun n hn => (setNames_words hw c n hn).2)
    (by simpa [setNames] using hset)

/-- **Splitting the status at its spaces gives the names of the set bits.** -/
theorem status_splitOn (c : UInt8) (hset : setTexts flags c ≠ []) :
    (infoCodesStatus flags c).data.splitOn ' ' = setNames flags c := by
  rw [infoCodesStatus_data_words hw]
  exact splitOn_setNames hw c hset

end Words

/-- The 603's status for codes `0x81` splits into its first and last names. -/
example :
    let flags : List (UInt8 × String) := [(1, "VOLTAGE_INTERRUPTED "), (2, "LOW_BATTERY_LEVEL "),
      (4, "EXTERNAL_ALARM "), (8, "SENSOR_T1_ABOVE_MEASURING_RANGE "),
      (16, "SENSOR_T2_ABOVE_MEASURING_RANGE "), (32, "SENSOR_T1_BELOW_MEASURING_RANGE "),
      (64, "SENSOR_T2_BELOW_MEASURING_RANGE "), (128, "TEMP_DIFF_WRONG_POLARITY ")]
    (infoCodesStatus flags 0x81).data.splitOn ' ' = setNames flags 0x81 :=
  status_splitOn (by unfold WordTable; decide) 0x81 (by decide)

/-! ### Nothing is lost -/

theorem zero_land (b : UInt8) : 0 &&& b = 0 := by
  cases b with
  | mk v => show UInt8.mk (0#8 &&& v) = UInt8.mk 0#8; rw [BitVec.zero_and]

/-- Every bit of the byte is one of `bits`: the byte is the bits of it that are set. -/
def CoversByte (bits : List UInt8) : Prop :=
  ∀ c : UInt8, bits.foldl (fun acc b => acc ||| if c &&& b != 0 then b else 0) 0 = c

set_option maxRecDepth 10000 in
theorem coversByte_bits : CoversByte [1, 2, 4, 8, 16, 32, 64, 128] := by
  intro ⟨⟨v⟩⟩
  revert v
  decide

/-- In a table whose texts are distinct, a text is among the set ones exactly when
its bit is set. -/
theorem mem_setTexts {flags : List (UInt8 × String)} (hnd : (flags.map (·.2)).Nodup)
    {f : UInt8 × String} (hf : f ∈ flags) (c : UInt8) :
    f.2 ∈ setTexts flags c ↔ (c &&& f.1 != 0) = true := by
  constructor
  · intro h
    obtain ⟨g, hg, hgf⟩ := List.mem_map.mp h
    have hgf' : g = f := List.inj_on_of_nodup_map hnd (List.mem_filter.mp hg).1 hf hgf
    exact hgf' ▸ (List.mem_filter.mp hg).2
  · exact fun h => List.mem_map.mpr ⟨f, List.mem_filter.mpr ⟨hf, h⟩, rfl⟩

/-- **A status of words, over distinct texts whose bits cover the byte, loses
nothing**: it is empty exactly when no code is set, and two codes with the same
status are equal. -/
theorem infoCodesStatus_lossless {flags : List (UInt8 × String)} (hw : WordTable flags)
    (hnd : (flags.map (·.2)).Nodup) (hcov : CoversByte (flags.map (·.1))) :
    (∀ c, infoCodesStatus flags c = "" ↔ c = 0) ∧ Function.Injective (infoCodesStatus flags) := by
  -- the codes are told apart by their set texts
  have htexts : ∀ c₁ c₂, setTexts flags c₁ = setTexts flags c₂ → c₁ = c₂ := by
    intro c₁ c₂ h
    rw [← hcov c₁, ← hcov c₂, List.foldl_map, List.foldl_map]
    refine List.foldl_ext _ _ _ fun acc f hf => ?_
    have : (c₁ &&& f.1 != 0) = (c₂ &&& f.1 != 0) := by
      rw [Bool.eq_iff_iff, ← mem_setTexts hnd hf, ← mem_setTexts hnd hf, h]
    rw [this]
  have hzero : setTexts flags 0 = [] := by simp [setTexts, zero_land]
  have hempty : ∀ c, infoCodesStatus flags c = "" ↔ c = 0 := fun c => by
    rw [status_eq_empty_iff hw]
    exact ⟨fun h => htexts c 0 (h.trans hzero.symm), fun h => h ▸ hzero⟩
  refine ⟨hempty, fun c₁ c₂ h => htexts c₁ c₂ ?_⟩
  by_cases h₁ : setTexts flags c₁ = []
  · rw [h₁, (status_eq_empty_iff hw c₂).mp (h ▸ (status_eq_empty_iff hw c₁).mpr h₁)]
  · have h₂ : setTexts flags c₂ ≠ [] := fun h₂ =>
      h₁ ((status_eq_empty_iff hw c₁).mp (h.trans ((status_eq_empty_iff hw c₂).mpr h₂)))
    have hdata := congrArg String.data h
    rw [infoCodesStatus_data_words hw, infoCodesStatus_data_words hw] at hdata
    have hnames := (splitOn_setNames hw c₁ h₁).symm.trans
      ((congrArg (List.splitOn ' ') hdata).trans (splitOn_setNames hw c₂ h₂))
    have hwords := congrArg (List.map (· ++ [' '])) hnames
    rw [← setTexts_words hw, ← setTexts_words hw] at hwords
    exact List.map_injective_iff.mpr (fun _ _ => String.ext) hwords

/-- **Both meters' status texts lose nothing.**  Each bit of `info_codes_` has a
name of its own in both tables, so the status is empty exactly when no code is
set and tells any two codes apart. -/
theorem status_lossless :
    ((∀ c, MeterMultical302.status c = "" ↔ c = 0) ∧ Function.Injective MeterMultical302.status) ∧
    ((∀ c, MeterMultical603.status c = "" ↔ c = 0) ∧ Function.Injective MeterMultical603.status) :=
  ⟨infoCodesStatus_lossless (by unfold WordTable; decide) (by decide) coversByte_bits,
    infoCodesStatus_lossless (by unfold WordTable; decide) (by decide) coversByte_bits⟩

end Wmbusmeters
