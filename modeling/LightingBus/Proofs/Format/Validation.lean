import LightingBus.Format.Records
import LightingBus.Format.Written
import Mathlib

/-!
# Data of a format

What data a written format admits (`Describes`), for the shapes that formats of parameters have.

1. Fields of fixed size take their sizes together (`skipRecord_of_fixed`). So one record of them is
   data of exactly that length (`describes_fixed_iff`), and records that repeat are data of a
   multiple of it (`describes_repeated_iff`).
2. A text at the end of a record is ascii up to its first zero byte and has at most 32 bytes up to
   there (`skipRecord_text`).
-/

namespace LightingBus

namespace Format

variable {text : String} {format : Format} {fields : List Field} {data : Bytes}

/-- The data has the written format. -/
def Describes (text : String) (data : Bytes) : Prop :=
  ∃ format records, parse text = .ok format ∧ format.validate data = .ok records

theorem describes_iff (hparse : parse text = .ok format) :
    Describes text data ↔ ∃ records, format.validate data = .ok records := by
  constructor
  · rintro ⟨other, records, hother, hvalid⟩
    obtain rfl : format = other := Except.ok.inj (hparse.symm.trans hother)
    exact ⟨records, hvalid⟩
  · rintro ⟨records, hvalid⟩
    exact ⟨format, records, hparse, hvalid⟩

theorem not_describes {e : Error} (hparse : parse text = .error e) : ¬ Describes text data := by
  rintro ⟨format, records, hformat, -⟩
  rw [hparse] at hformat
  cases hformat

/-! ## Fields of fixed size -/

/-- The field stands for a value, and its size does not depend on the data. -/
def Field.IsFixed (field : Field) : Prop :=
  field.isVariable = false ∧ field.takesValue = true

instance : DecidablePred Field.IsFixed :=
  fun _ => inferInstanceAs (Decidable (_ ∧ _))

theorem Field.length_of_isFixed {field : Field} (h : field.IsFixed) (data : Bytes) :
    field.length data = if data.length < field.fixedSize then .error .dataTooShort
      else .ok field.fixedSize := by
  obtain ⟨hvariable, hvalue⟩ := h
  cases field with
  | byte | word | dword | uid => rfl
  | optionalUid | ascii | rest => cases hvariable
  | literal => cases hvalue

/-- Fields of fixed size take their sizes together. -/
theorem skipRecord_of_fixed (hfixed : ∀ field ∈ fields, field.IsFixed) :
    ∀ data, skipRecord fields data = if data.length < leastSize fields then .error .dataTooShort
      else .ok (data.drop (leastSize fields)) := by
  induction fields with
  | nil => exact fun _ => rfl
  | cons field fields ih =>
    intro data
    obtain ⟨hfield, hfields⟩ := List.forall_mem_cons.mp hfixed
    rw [skipRecord, Field.length_of_isFixed hfield, leastSize]
    by_cases hshort : data.length < field.fixedSize
    · rw [if_pos hshort, if_pos (by omega)]
      rfl
    · rw [if_neg hshort]
      change skipRecord fields (data.drop field.fixedSize) = _
      rw [ih hfields, List.length_drop, List.drop_drop]
      exact if_congr (by omega) rfl rfl

/-- What comes behind some fields is read behind them. -/
theorem skipRecord_append (front back : List Field) :
    ∀ data, skipRecord (front ++ back) data = skipRecord front data >>= skipRecord back := by
  induction front with
  | nil => exact fun _ => rfl
  | cons field front ih =>
    intro data
    rw [List.cons_append, skipRecord, skipRecord]
    cases field.length data with
    | error e => rfl
    | ok length => exact ih (data.drop length)

/-! ## One record -/

theorem validate_singleton (hne : fields ≠ []) (data : Bytes) :
    (∃ records, (⟨fields, true⟩ : Format).validate data = .ok records) ↔
      skipRecord fields data = .ok [] := by
  have hfields : fields.isEmpty = false := List.isEmpty_eq_false_iff.mpr hne
  rw [validate, if_neg (by simp [hfields]), if_pos rfl]
  cases skipRecord fields data with
  | error e => exact ⟨nofun, nofun⟩
  | ok rest =>
    cases rest with
    | nil => exact ⟨fun _ => rfl, fun _ => ⟨1, rfl⟩⟩
    | cons byte rest => exact ⟨nofun, nofun⟩

/-- One record of fields of fixed size is data of one length. -/
theorem describes_fixed_iff (hparse : parse text = .ok ⟨fields, true⟩) (hne : fields ≠ [])
    (hfixed : ∀ field ∈ fields, field.IsFixed) :
    Describes text data ↔ data.length = leastSize fields := by
  rw [describes_iff hparse, validate_singleton hne, skipRecord_of_fixed hfixed]
  split_ifs with hshort
  · exact ⟨nofun, fun h => absurd h (Nat.ne_of_lt hshort)⟩
  · rw [Except.ok.injEq, List.drop_eq_nil_iff]
    omega

/-! ## Records that repeat -/

theorem countRecords_of_fixed (hfixed : ∀ field ∈ fields, field.IsFixed)
    (hsize : 0 < leastSize fields) (n : ℕ) :
    ∀ {data : Bytes}, data.length = (n + 1) * leastSize fields →
      countRecords fields data = .ok (n + 1) := by
  induction n with
  | zero =>
    intro data hlength
    rw [Nat.zero_add, Nat.one_mul] at hlength
    have hskip : skipRecord fields data = .ok [] := by
      rw [skipRecord_of_fixed hfixed, if_neg (by omega),
        List.drop_eq_nil_iff.mpr (Nat.le_of_eq hlength)]
    rw [countRecords, hskip]
    rfl
  | succ n ih =>
    intro data hlength
    rw [Nat.succ_mul] at hlength
    have hpos : 0 < (n + 1) * leastSize fields := Nat.mul_pos n.succ_pos hsize
    have hskip : skipRecord fields data = .ok (data.drop (leastSize fields)) := by
      rw [skipRecord_of_fixed hfixed, if_neg (by omega)]
    have hrest : (data.drop (leastSize fields)).length = (n + 1) * leastSize fields := by
      rw [List.length_drop, hlength, Nat.add_sub_cancel]
    have hne : ¬ (data.drop (leastSize fields)).isEmpty = true := by
      rw [List.isEmpty_iff_length_eq_zero]
      omega
    rw [countRecords, hskip]
    dsimp only
    rw [if_neg hne, if_pos (by omega), ih hrest]
    rfl

/-- Any number of records of fields of fixed size is data of a multiple of their length. -/
theorem describes_repeated (hparse : parse text = .ok ⟨fields, false⟩) (hne : fields ≠ [])
    (hfixed : ∀ field ∈ fields, field.IsFixed) (hsize : 0 < leastSize fields)
    (hlength : leastSize fields ∣ data.length) : Describes text data := by
  rw [describes_iff hparse, validate]
  obtain ⟨n, hn⟩ := hlength
  cases n with
  | zero =>
    obtain rfl : data = [] := List.length_eq_zero_iff.mp (by rw [hn, Nat.mul_zero])
    exact ⟨0, by simp⟩
  | succ n =>
    have hfields : fields.isEmpty = false := List.isEmpty_eq_false_iff.mpr hne
    have hdata : data.isEmpty = false := by
      rw [List.isEmpty_eq_false_iff, ← List.length_pos_iff, hn]
      exact Nat.mul_pos hsize n.succ_pos
    rw [if_neg (by simp [hfields, hdata]), if_neg (by simp)]
    exact ⟨n + 1, countRecords_of_fixed hfixed hsize n (by rw [hn, Nat.mul_comm])⟩

/-! ## Texts -/

/-- Bytes that can be sent as a text: up to the first zero byte they are ascii and not too many. -/
def IsText (data : Bytes) : Prop :=
  data.untilZero.length ≤ Label.maxLength ∧ Text.isAscii data.untilZero = true

/-- A text takes all that is left. -/
theorem skipRecord_text (data : Bytes) : skipRecord [.ascii] data = .ok [] ↔ IsText data := by
  rw [skipRecord, Field.length]
  split_ifs with h
  · refine ⟨nofun, fun htext => ?_⟩
    rcases h with h | h
    · exact absurd htext.1 (by omega)
    · exact absurd htext.2 h
  · rw [not_or, not_not, Nat.not_lt] at h
    refine ⟨fun _ => h, fun _ => ?_⟩
    change skipRecord [] (data.drop data.length) = _
    rw [List.drop_length]
    rfl

/-- A text behind fields of fixed size. -/
theorem describes_text_iff (hparse : parse text = .ok ⟨fields ++ [.ascii], true⟩)
    (hfixed : ∀ field ∈ fields, field.IsFixed) :
    Describes text data ↔
      leastSize fields ≤ data.length ∧ IsText (data.drop (leastSize fields)) := by
  rw [describes_iff hparse, validate_singleton (by simp), skipRecord_append,
    skipRecord_of_fixed hfixed]
  split_ifs with hshort
  · exact ⟨nofun, fun h => absurd h.1 (by omega)⟩
  · rw [← skipRecord_text]
    exact ⟨fun h => ⟨by omega, h⟩, And.right⟩

theorem isText_iff_of_length_le (h : data.length ≤ Label.maxLength) :
    IsText data ↔ Text.isAscii data.untilZero = true :=
  and_iff_right (Nat.le_trans (List.takeWhile_sublist _).length_le h)

/-! ## The formats of parameters -/

/-- How the formats of parameters are read. -/
structure Readings : Prop where
  nothing : parse "" = .ok ⟨[], true⟩
  byte : parse "b$" = .ok ⟨[.byte], true⟩
  word : parse "w$" = .ok ⟨[.word], true⟩
  twoBytes : parse "bb$" = .ok ⟨[.byte, .byte], true⟩
  sensor : parse "bwwww$" = .ok ⟨[.byte, .word, .word, .word, .word], true⟩
  label : parse "a$" = .ok ⟨[] ++ [.ascii], true⟩
  description : parse "bwa$" = .ok ⟨[.byte, .word] ++ [.ascii], true⟩
  words : parse "w" = .ok ⟨[.word], false⟩
  statuses : parse "wbwww" = .ok ⟨[.word, .byte, .word, .word, .word], false⟩
  anything : parse "r" = .ok ⟨[.rest], true⟩
  info : parse "#0100hwwdwbbwwb$" = .ok ⟨.literal ['0', '1', '0', '0'] ::
    [.word, .word, .dword, .word, .byte, .byte, .word, .word, .byte], true⟩

theorem readings : Readings := by
  constructor <;> cbv

theorem describes_nothing_iff : Describes "" data ↔ data = [] := by
  rw [describes_iff (Readings.nothing readings), validate]
  cases data with
  | nil => exact ⟨fun _ => rfl, fun _ => ⟨0, rfl⟩⟩
  | cons byte data => exact ⟨nofun, nofun⟩

theorem describes_byte_iff : Describes "b$" data ↔ data.length = 1 :=
  describes_fixed_iff (Readings.byte readings) (by decide) (by decide)

theorem describes_word_iff : Describes "w$" data ↔ data.length = 2 :=
  describes_fixed_iff (Readings.word readings) (by decide) (by decide)

theorem describes_twoBytes_iff : Describes "bb$" data ↔ data.length = 2 :=
  describes_fixed_iff (Readings.twoBytes readings) (by decide) (by decide)

theorem describes_sensor_iff : Describes "bwwww$" data ↔ data.length = 9 :=
  describes_fixed_iff (Readings.sensor readings) (by decide) (by decide)

theorem describes_label_iff : Describes "a$" data ↔ IsText data := by
  rw [describes_text_iff (Readings.label readings) (by decide)]
  exact ⟨And.right, fun h => ⟨Nat.zero_le _, h⟩⟩

theorem describes_description_iff : Describes "bwa$" data ↔
    3 ≤ data.length ∧ IsText (data.drop 3) :=
  describes_text_iff (Readings.description readings) (by decide)

theorem describes_words (h : 2 ∣ data.length) : Describes "w" data :=
  describes_repeated (Readings.words readings) (by decide) (by decide) (by decide) h

theorem describes_statuses (h : 9 ∣ data.length) : Describes "wbwww" data :=
  describes_repeated (Readings.statuses readings) (by decide) (by decide) (by decide) h

theorem describes_anything (data : Bytes) : Describes "r" data := by
  rw [describes_iff (Readings.anything readings), validate_singleton (by simp)]
  change skipRecord [] (data.drop data.length) = _
  rw [List.drop_length]
  rfl

/-- The version of the protocol stands in front of the other fields. -/
theorem describes_info (hversion : data.take 2 = [1, 0]) (hlength : data.length = 19) :
    Describes "#0100hwwdwbbwwb$" data := by
  have hliteral : (Field.literal ['0', '1', '0', '0']).length data = .ok 2 := by
    have hdigits : Hex.toBytes ['0', '1', '0', '0'] = [1, 0] := by decide
    have hsize : (Field.literal ['0', '1', '0', '0']).fixedSize = 2 := rfl
    rw [Field.length, hsize, hdigits, hversion, if_neg (by omega), if_neg (not_not.mpr rfl)]
  rw [describes_iff (Readings.info readings), validate_singleton (by simp), skipRecord, hliteral]
  change skipRecord _ (data.drop 2) = _
  have hrest : (data.drop 2).length = 17 := by rw [List.length_drop, hlength]
  rw [skipRecord_of_fixed (by decide), if_neg (by rw [hrest]; decide),
    List.drop_eq_nil_iff.mpr (by rw [hrest]; decide)]

end Format

end LightingBus
