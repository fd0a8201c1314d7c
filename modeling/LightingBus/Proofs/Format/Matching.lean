import LightingBus.Proofs.Format.RoundTrip
import LightingBus.Proofs.Payload.Labels
import Mathlib

/-!
# Data that matches a format

Checking accepts exactly the runs of records of a format, and counts them
(`validate_eq_ok_iff`).

1. A match of a field is said without reading it (`Field.Matches`), and a record is one match per
   field, one after the other (`IsRecord`).
2. A field takes the bytes of a match (`Field.length_append_iff`), so skipping a record cuts one off
   (`skipRecord_iff`), and skipping `n` records cuts off `n` of them (`isRecord_replicate_iff`).
3. Where records repeat, each of them has bytes. So each pass over the fields leaves less of the
   data than there was (`Proper.length_lt`), and the passes come to an end.
-/

namespace LightingBus

namespace Bytes

/-- What is up to the first zero byte is all, or has a zero byte behind it. -/
theorem eq_untilZero_or (bytes : Bytes) :
    bytes = bytes.untilZero ∨ ∃ back, bytes = bytes.untilZero ++ 0 :: back := by
  have hsplit : bytes.untilZero ++ bytes.dropWhile (· ≠ 0) = bytes :=
    List.takeWhile_append_dropWhile
  cases hback : bytes.dropWhile (· ≠ 0) with
  | nil =>
    rw [hback, List.append_nil] at hsplit
    exact .inl hsplit.symm
  | cons byte back =>
    have hhead := List.head?_dropWhile_not (· ≠ (0 : UInt8)) bytes
    rw [hback] at hhead
    obtain rfl : byte = 0 := by simpa using hhead
    rw [hback] at hsplit
    exact .inr ⟨back, hsplit.symm⟩

theorem untilZero_append_sublist (front back : Bytes) :
    (untilZero (front ++ 0 :: back)).Sublist front := by
  rw [untilZero, List.takeWhile_append]
  split_ifs with hall
  · simp
  · exact List.takeWhile_sublist _

end Bytes

namespace Format

variable {text : String} {format : Format} {field : Field} {fields : List Field}
  {data front back record rest : Bytes} {n size : ℕ}

/-! ## Matches -/

/-- The bytes are a match of the field: those of a literal, any bytes of the field's width, an
address or nothing, at most 32 ascii bytes that may be followed by a zero byte and anything, or
anything. -/
def Field.Matches : Field → Bytes → Prop
  | .byte, bytes => bytes.length = 1
  | .word, bytes => bytes.length = 2
  | .dword, bytes => bytes.length = 4
  | .uid, bytes => bytes.length = 6
  | .optionalUid, bytes => bytes = [] ∨ bytes.length = 6
  | .ascii, bytes => ∃ letters : Bytes, letters.length ≤ 32 ∧ Text.isAscii letters = true ∧
      (bytes = letters ∨ ∃ back, bytes = letters ++ 0 :: back)
  | .rest, _ => True
  | .literal digits, bytes => bytes = Hex.toBytes digits

/-- The bytes are a record: one match per field, one after the other. -/
def IsRecord (fields : List Field) (bytes : Bytes) : Prop :=
  ∃ parts : List Bytes, bytes = parts.flatten ∧ List.Forall₂ Field.Matches fields parts

theorem isRecord_nil_iff : IsRecord [] record ↔ record = [] := by
  simp [IsRecord]

theorem isRecord_cons_iff : IsRecord (field :: fields) record ↔
    ∃ front back, record = front ++ back ∧ field.Matches front ∧ IsRecord fields back := by
  constructor
  · rintro ⟨parts, rfl, hparts⟩
    obtain ⟨front, others, hfront, hothers, rfl⟩ := List.forall₂_cons_left_iff.mp hparts
    exact ⟨front, others.flatten, List.flatten_cons, hfront, others, rfl, hothers⟩
  · rintro ⟨front, back, rfl, hfront, parts, rfl, hparts⟩
    exact ⟨front :: parts, List.flatten_cons.symm, .cons hfront hparts⟩

theorem isRecord_append_iff (others : List Field) : IsRecord (fields ++ others) record ↔
    ∃ front back, record = front ++ back ∧ IsRecord fields front ∧ IsRecord others back := by
  induction fields generalizing record with
  | nil => simp [isRecord_nil_iff]
  | cons field fields ih =>
    simp only [List.cons_append, isRecord_cons_iff, ih]
    constructor
    · rintro ⟨first, -, rfl, hfirst, front, back, rfl, hfront, hback⟩
      exact ⟨first ++ front, back, (List.append_assoc _ _ _).symm, ⟨first, front, rfl, hfirst,
        hfront⟩, hback⟩
    · rintro ⟨-, back, rfl, ⟨first, front, rfl, hfirst, hfront⟩, hback⟩
      exact ⟨first, front ++ back, List.append_assoc _ _ _, hfirst, front, back, rfl, hfront,
        hback⟩

/-- Copies of the fields stand for as many records. -/
theorem isRecord_replicate_iff : IsRecord (List.replicate n fields).flatten data ↔
    ∃ records : List Bytes, records.length = n ∧ data = records.flatten ∧
      ∀ record ∈ records, IsRecord fields record := by
  induction n generalizing data with
  | zero =>
    show IsRecord [] data ↔ _
    rw [isRecord_nil_iff]
    constructor
    · rintro rfl
      exact ⟨[], rfl, rfl, nofun⟩
    · rintro ⟨records, hlength, rfl, -⟩
      rw [List.length_eq_zero_iff.mp hlength]
      rfl
  | succ n ih =>
    rw [flatten_replicate_succ, isRecord_append_iff]
    simp only [ih]
    constructor
    · rintro ⟨first, -, rfl, hfirst, records, rfl, rfl, hrecords⟩
      exact ⟨first :: records, rfl, List.flatten_cons.symm,
        List.forall_mem_cons.mpr ⟨hfirst, hrecords⟩⟩
    · rintro ⟨records, hlength, rfl, hrecords⟩
      cases records with
      | nil => cases hlength
      | cons first records =>
        obtain ⟨hfirst, hrecords⟩ := List.forall_mem_cons.mp hrecords
        exact ⟨first, records.flatten, List.flatten_cons, hfirst, records,
          Nat.succ.inj hlength, rfl, hrecords⟩

/-! ## One field -/

/-- Up to its first zero byte a match is the shortest text that it can be read as, so no other text
has to be tried. -/
theorem Field.matches_ascii_iff : Field.ascii.Matches data ↔ IsText data := by
  constructor
  · rintro ⟨letters, hlength, hascii, hdata⟩
    have hsub : data.untilZero.Sublist letters := by
      rcases hdata with rfl | ⟨back, rfl⟩
      · exact List.takeWhile_sublist _
      · exact Bytes.untilZero_append_sublist letters back
    exact ⟨hsub.length_le.trans hlength, Text.isAscii_of_sublist hsub hascii⟩
  · rintro ⟨hlength, hascii⟩
    exact ⟨data.untilZero, hlength, hascii, Bytes.eq_untilZero_or data⟩

/-- A field of fixed size takes that many bytes. -/
theorem Field.length_append_iff_of_isFixed (h : field.IsFixed)
    (hmatch : field.Matches front ↔ front.length = field.fixedSize) :
    field.length (front ++ back) = .ok front.length ↔ field.Matches front := by
  rw [hmatch, Field.length_of_isFixed h, List.length_append]
  split_ifs with hshort
  · exact iff_of_false (by simp) (by omega)
  · rw [Except.ok.injEq, eq_comm]

/-- A field takes the bytes of a match. Nothing is behind a field of variable length, since it takes
all that is left. -/
theorem Field.length_append_iff (hback : field.isVariable = true → back = []) :
    field.length (front ++ back) = .ok front.length ↔ field.Matches front := by
  cases field with
  | byte | word | dword | uid => exact Field.length_append_iff_of_isFixed ⟨rfl, rfl⟩ Iff.rfl
  | optionalUid =>
    rw [hback rfl, List.append_nil, Field.length, Field.Matches, ← List.length_eq_zero_iff]
    split_ifs with hnone hsix hshort
    · exact iff_of_true (congrArg Except.ok hnone.symm) (.inl hnone)
    · exact iff_of_true (congrArg Except.ok hsix.symm) (.inr hsix)
    · exact iff_of_false (by simp) (not_or.mpr ⟨hnone, hsix⟩)
    · exact iff_of_false (by simp) (not_or.mpr ⟨hnone, hsix⟩)
  | ascii =>
    rw [hback rfl, List.append_nil, Field.matches_ascii_iff, Field.length]
    split_ifs with htext
    · refine iff_of_false (by simp) fun h => ?_
      rcases htext with hlong | hascii
      · exact absurd h.1 (Nat.not_le_of_lt hlong)
      · exact hascii h.2
    · rw [not_or, not_not, Nat.not_lt] at htext
      exact iff_of_true rfl htext
  | rest =>
    rw [hback rfl, List.append_nil]
    exact iff_of_true rfl trivial
  | literal digits =>
    constructor
    · intro h
      have htake := Field.take_of_length_literal h
      rwa [List.take_left' rfl] at htake
    · intro h
      rw [Field.Matches] at h
      rw [h]
      exact Field.length_literal_append digits back

/-! ## Records -/

/-- Skipping a record cuts one off. Only a record of fixed size can have bytes behind it. -/
theorem skipRecord_iff (hlast : variableOnlyLast fields = true)
    (hrest : rest ≠ [] → ∀ field ∈ fields, field.isVariable = false) :
    skipRecord fields data = .ok rest ↔
      ∃ record, data = record ++ rest ∧ IsRecord fields record := by
  induction fields generalizing data with
  | nil =>
    simp only [skipRecord, Except.ok.injEq, isRecord_nil_iff]
    constructor
    · rintro rfl
      exact ⟨[], rfl, rfl⟩
    · rintro ⟨-, rfl, rfl⟩
      rfl
  | cons field fields ih =>
    obtain ⟨hfield, hlast⟩ := variableOnlyLast_cons.mp hlast
    have hmore : rest ≠ [] → ∀ other ∈ fields, other.isVariable = false :=
      fun hne other hother => hrest hne other (List.mem_cons_of_mem _ hother)
    rw [skipRecord]
    constructor
    · intro h
      cases hlength : field.length data with
      | error e =>
        rw [hlength] at h
        cases h
      | ok n =>
        rw [hlength] at h
        obtain ⟨back, hback, hrecord⟩ := (ih hlast hmore).mp h
        obtain ⟨hle, hn⟩ := Field.length_eq_ok hlength
        have hdrop : field.isVariable = true → data.drop n = [] := by
          intro hvariable
          rw [if_pos hvariable] at hn
          rw [hn, List.drop_length]
        have hfront : field.Matches (data.take n) := by
          apply (Field.length_append_iff hdrop).mp
          rw [List.take_append_drop, List.length_take_of_le hle, hlength]
        refine ⟨data.take n ++ back, ?_, isRecord_cons_iff.mpr ⟨_, back, rfl, hfront, hrecord⟩⟩
        rw [List.append_assoc, ← hback, List.take_append_drop]
    · rintro ⟨record, rfl, hrecord⟩
      obtain ⟨front, back, rfl, hfront, hback⟩ := isRecord_cons_iff.mp hrecord
      have hbehind : field.isVariable = true → back ++ rest = [] := by
        intro hvariable
        obtain rfl : fields = [] := by
          by_contra hne
          rw [hfield hne] at hvariable
          cases hvariable
        obtain rfl := isRecord_nil_iff.mp hback
        by_contra hne
        rw [hrest hne field List.mem_cons_self] at hvariable
        cases hvariable
      rw [List.append_assoc, (Field.length_append_iff hbehind).mpr hfront]
      change skipRecord fields (List.drop _ (_ ++ _)) = _
      rw [List.drop_left' rfl]
      exact (ih hlast hmore).mpr ⟨back, rfl, hback⟩

/-- Fields of fixed size take as many bytes together as their sizes are. -/
theorem length_of_skipRecord (hfixed : ∀ field ∈ fields, field.isVariable = false)
    (h : skipRecord fields data = .ok rest) : data.length = leastSize fields + rest.length := by
  induction fields generalizing data with
  | nil =>
    cases h
    exact (Nat.zero_add _).symm
  | cons field fields ih =>
    obtain ⟨hfield, hfields⟩ := List.forall_mem_cons.mp hfixed
    rw [skipRecord] at h
    cases hlength : field.length data with
    | error e =>
      rw [hlength] at h
      cases h
    | ok n =>
      rw [hlength] at h
      obtain ⟨hle, hn⟩ := Field.length_eq_ok hlength
      have hback := ih hfields h
      rw [List.length_drop] at hback
      rw [hfield] at hn
      rw [leastSize]
      simp only [Bool.false_eq_true, if_false] at hn
      omega

/-- A field that fits is read as one value, or as none if it is a literal. -/
theorem Field.isSome_read? (h : field.length data = .ok n) :
    (field.read? data n).isSome = field.takesValue := by
  obtain ⟨hle, hn⟩ := Field.length_eq_ok h
  cases field with
  | byte =>
    obtain rfl : n = 1 := hn
    match data, hle with
    | a :: back, _ => rfl
  | word =>
    obtain rfl : n = 2 := hn
    match data, hle with
    | a :: b :: back, _ => rfl
  | dword =>
    obtain rfl : n = 4 := hn
    match data, hle with
    | a :: b :: c :: d :: back, _ => rfl
  | uid =>
    obtain rfl : n = 6 := hn
    obtain ⟨address, hread, -⟩ := Address.exists_ofBytes? (List.length_take_of_le hle)
    rw [Field.read?, hread]
    rfl
  | optionalUid | ascii | rest | literal => rfl

/-- As many values are read as the fields take, so reading does not end early. -/
theorem length_readValues (h : skipRecord fields data = .ok rest) :
    (readValues fields data).length = fields.countP Field.takesValue := by
  induction fields generalizing data with
  | nil => rfl
  | cons field fields ih =>
    rw [skipRecord] at h
    cases hlength : field.length data with
    | error e =>
      rw [hlength] at h
      cases h
    | ok n =>
      rw [hlength] at h
      have hback := ih h
      have hvalue := Field.isSome_read? hlength
      rw [readValues, hlength, List.countP_cons, ← hvalue]
      cases hread : field.read? data n with
      | none =>
        simp only [hread]
        exact hback
      | some value =>
        simp only [hread, List.length_cons]
        exact congrArg (· + 1) hback

/-! ## Runs of records -/

/-- A field of fixed size that takes a value has bytes, and so does a run of fields with one. -/
theorem leastSize_pos (h : ∃ field ∈ fields, field.IsFixed) : 0 < leastSize fields := by
  obtain ⟨field, hfield, hvariable, hvalue⟩ := h
  induction fields with
  | nil => cases hfield
  | cons other fields ih =>
    rw [leastSize]
    cases hfield with
    | head =>
      have hsize : 0 < field.fixedSize := by
        cases field with
        | byte | word | dword | uid => decide
        | optionalUid | ascii | rest => cases hvariable
        | literal => cases hvalue
      omega
    | tail _ hfield =>
      have := ih hfield
      omega

/-- Where records repeat, skipping some of them leaves less of the data than there was. -/
theorem Proper.length_lt (h : Proper format) (hrepeats : format.singleton = false)
    (hskip : skipRecord (List.replicate (n + 1) format.fields).flatten data = .ok rest) :
    rest.length < data.length := by
  have hfixed : ∀ field ∈ (List.replicate (n + 1) format.fields).flatten,
      field.isVariable = false :=
    fun field hfield => h.fixed hrepeats field (mem_of_mem_flatten hfield)
  have hpos : 0 < leastSize (List.replicate (n + 1) format.fields).flatten := by
    obtain ⟨field, hfield, hvalue⟩ := h.takes hrepeats
    refine leastSize_pos ⟨field, ?_, h.fixed hrepeats field hfield, hvalue⟩
    rw [flatten_replicate_succ]
    exact List.mem_append_left _ hfield
  have hlength := length_of_skipRecord hfixed hskip
  omega

/-- Copies of the fields that are skipped are counted. -/
theorem Proper.countRecords_of_skipRecord (h : Proper format) (hrepeats : format.singleton = false)
    (hskip : skipRecord (List.replicate (n + 1) format.fields).flatten data = .ok []) :
    countRecords format.fields data = .ok (n + 1) := by
  induction n generalizing data with
  | zero =>
    rw [List.replicate_one, List.flatten_singleton] at hskip
    rw [countRecords, hskip]
    rfl
  | succ n ih =>
    rw [flatten_replicate_succ, skipRecord_append] at hskip
    cases hfirst : skipRecord format.fields data with
    | error e =>
      rw [hfirst] at hskip
      cases hskip
    | ok rest =>
      rw [hfirst] at hskip
      have hmore : ¬ rest.isEmpty = true := by
        rw [List.isEmpty_iff, ← List.length_eq_zero_iff]
        exact Nat.ne_of_gt (Nat.zero_lt_of_lt (h.length_lt hrepeats hskip))
      have hless : rest.length < data.length := by
        apply h.length_lt (n := 0) hrepeats
        rw [List.replicate_one, List.flatten_singleton, hfirst]
      rw [countRecords, hfirst]
      dsimp only
      rw [if_neg hmore, if_pos hless, ih hskip]
      rfl

/-- How many records a format allows: none without fields, else one or any number of them. -/
structure Allows (format : Format) (n : ℕ) : Prop where
  none : format.fields = [] → n = 0
  one : format.singleton = true → format.fields ≠ [] → n = 1

/-- The check accepts what is skipped as a number of records that the format allows. -/
theorem Proper.validate_eq_ok_iff_skipRecord (h : Proper format) :
    format.validate data = .ok n ↔ format.Allows n ∧
      skipRecord (List.replicate n format.fields).flatten data = .ok [] := by
  constructor
  · intro hvalid
    obtain ⟨hskip, hn⟩ := skipRecord_of_validate hvalid
    refine ⟨⟨?_, fun hsingleton hne => (hn hsingleton).resolve_right fun h => hne h.2⟩, hskip⟩
    intro hnone
    rw [validate, if_pos (.inl (List.isEmpty_iff.mpr hnone))] at hvalid
    split_ifs at hvalid
    exact (Except.ok.inj hvalid).symm
  · rintro ⟨hallows, hskip⟩
    rw [validate]
    cases n with
    | zero =>
      obtain rfl : data = [] := Except.ok.inj hskip
      have hnone : format.fields.isEmpty ∨ (¬ format.singleton ∧ ([] : Bytes).isEmpty) := by
        by_cases hfields : format.fields = []
        · exact .inl (List.isEmpty_iff.mpr hfields)
        · exact .inr ⟨fun hsingleton => absurd (hallows.one hsingleton hfields) zero_ne_one, rfl⟩
      rw [if_pos hnone]
      rfl
    | succ n =>
      have hfields : format.fields ≠ [] := fun hnone => n.succ_ne_zero (hallows.none hnone)
      by_cases hsingleton : format.singleton = true
      · obtain rfl : n = 0 := Nat.succ.inj (hallows.one hsingleton hfields)
        rw [List.replicate_one, List.flatten_singleton] at hskip
        rw [if_neg (by simp [hfields, hsingleton]), if_pos hsingleton, hskip]
        rfl
      · have hrepeats : format.singleton = false := by simpa using hsingleton
        have hdata : data ≠ [] := List.ne_nil_of_length_pos (h.length_lt hrepeats hskip)
        rw [if_neg (by simp [hfields, hdata]), if_neg hsingleton]
        exact h.countRecords_of_skipRecord hrepeats hskip

/-- Data is skipped as so many records exactly if it is so many, one after the other. -/
theorem Proper.skipRecord_replicate_iff (h : Proper format) (hn : format.Allows n) :
    skipRecord (List.replicate n format.fields).flatten data = .ok [] ↔
      ∃ records : List Bytes, records.length = n ∧ data = records.flatten ∧
        ∀ record ∈ records, IsRecord format.fields record := by
  have hle (hsingleton : format.singleton = true) : n ≤ 1 := by
    by_cases hfields : format.fields = []
    · rw [hn.none hfields]
      exact Nat.zero_le 1
    · rw [hn.one hsingleton hfields]
  rw [skipRecord_iff (h.last_flatten hle) (fun hne => absurd rfl hne), ← isRecord_replicate_iff]
  simp

/-- Where all data of a format has the same size, skipping all of it skips that many bytes. -/
theorem length_of_exactSize? (hsize : format.exactSize? = some size) (hn : format.Allows n)
    (hskip : skipRecord (List.replicate n format.fields).flatten data = .ok []) :
    data.length = size := by
  rw [exactSize?] at hsize
  split_ifs at hsize with hexact
  rw [Bool.and_eq_true, Bool.not_eq_true', List.any_eq_false] at hexact
  obtain ⟨hsingleton, hfixed⟩ := hexact
  have hlength := length_of_skipRecord
    (fun field hfield => by simpa using hfixed field (mem_of_mem_flatten hfield)) hskip
  rw [hlength, ← Option.some.inj hsize, fixedSize]
  by_cases hfields : format.fields = []
  · rw [hn.none hfields, hfields]
    rfl
  · rw [hn.one hsingleton hfields, List.replicate_one, List.flatten_singleton]
    rfl

/-- **Checking is matching.** Data passes the check with `n` records exactly if it is `n` records,
one after the other, where a format without fields has none and a format of a single record has one.
Then as many values are read as the records have fields that take one, and all data has the exact
size if there is one. Where records repeat, each that is skipped leaves less of the data, so the
check comes to an end. -/
theorem validate_eq_ok_iff (hparse : parse text = .ok format) :
    (∀ data n, format.validate data = .ok n ↔ format.Allows n ∧
        ∃ records : List Bytes, records.length = n ∧ data = records.flatten ∧
          ∀ record ∈ records, IsRecord format.fields record) ∧
    (∀ data n, format.validate data = .ok n → ∃ values, format.unpack data = .ok values ∧
      values.length = n * format.fields.countP Field.takesValue) ∧
    (∀ size, format.exactSize? = some size → ∀ data n, format.validate data = .ok n →
      data.length = size) ∧
    (format.singleton = false → ∀ data rest, skipRecord format.fields data = .ok rest →
      rest.length < data.length) := by
  have hproper := proper_of_parse hparse
  refine ⟨?_, ?_, ?_, ?_⟩
  · intro data n
    rw [hproper.validate_eq_ok_iff_skipRecord]
    exact and_congr_right hproper.skipRecord_replicate_iff
  · intro data n hvalid
    obtain ⟨-, hskip⟩ := hproper.validate_eq_ok_iff_skipRecord.mp hvalid
    refine ⟨readValues (List.replicate n format.fields).flatten data, ?_, ?_⟩
    · rw [unpack, hvalid]
      rfl
    · rw [length_readValues hskip, List.countP_flatten, List.map_replicate, List.sum_replicate_nat]
  · intro size hsize data n hvalid
    obtain ⟨hn, hskip⟩ := hproper.validate_eq_ok_iff_skipRecord.mp hvalid
    exact length_of_exactSize? hsize hn hskip
  · intro hrepeats data rest hskip
    apply hproper.length_lt (n := 0) hrepeats
    rwa [List.replicate_one, List.flatten_singleton]

/-- Two words, each behind the byte 1, are two records. A byte and a text are one, whatever is
behind the zero byte of the text. A byte and a word are three bytes. -/
theorem validate_eq_ok_iff_numbered :
    let numbered : Format := ⟨[.literal ['0', '1'], .word], false⟩
    let named : Format := ⟨[.byte, .ascii], true⟩
    let paired : Format := ⟨[.byte, .word], true⟩
    parse "#01hw" = .ok numbered ∧ numbered.validate [1, 2, 3, 1, 4, 5] = .ok 2 ∧
    (∃ values, numbered.unpack [1, 2, 3, 1, 4, 5] = .ok values ∧ values.length = 2) ∧
    parse "ba" = .ok named ∧ named.validate [7, 72, 105, 0, 200] = .ok 1 ∧
    parse "bw$" = .ok paired ∧ ∀ data n, paired.validate data = .ok n → data.length = 3 := by
  intro numbered named paired
  have hnumbered : parse "#01hw" = .ok numbered := by cbv
  have hnamed : parse "ba" = .ok named := by cbv
  have hpaired : parse "bw$" = .ok paired := by cbv
  have hrecord (word : Bytes) (hword : word.length = 2) :
      IsRecord numbered.fields ([1] ++ word) :=
    ⟨[[1], word], by simp, .cons rfl (.cons hword .nil)⟩
  have htwo : numbered.validate [1, 2, 3, 1, 4, 5] = .ok 2 := by
    refine ((validate_eq_ok_iff hnumbered).1 _ 2).mpr ⟨⟨by simp [numbered], by simp [numbered]⟩,
      [[1, 2, 3], [1, 4, 5]], rfl, rfl, ?_⟩
    exact List.forall_mem_cons.mpr ⟨hrecord [2, 3] rfl,
      List.forall_mem_singleton.mpr (hrecord [4, 5] rfl)⟩
  have hone : named.validate [7, 72, 105, 0, 200] = .ok 1 := by
    refine ((validate_eq_ok_iff hnamed).1 _ 1).mpr ⟨⟨by simp [named], fun _ _ => rfl⟩,
      [[7, 72, 105, 0, 200]], rfl, rfl, List.forall_mem_singleton.mpr ?_⟩
    exact ⟨[[7], [72, 105, 0, 200]], rfl,
      .cons rfl (.cons ⟨[72, 105], by decide, rfl, .inr ⟨[200], rfl⟩⟩ .nil)⟩
  exact ⟨hnumbered, htwo, (validate_eq_ok_iff hnumbered).2.1 _ 2 htwo, hnamed, hone, hpaired,
    (validate_eq_ok_iff hpaired).2.2.1 3 rfl⟩

end Format

end LightingBus
