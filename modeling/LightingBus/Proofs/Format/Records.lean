import LightingBus.Format.Packing
import LightingBus.Proofs.Format.Validation
import LightingBus.Proofs.Packet.DiscoveryReply
import Mathlib

/-!
# Records and their bytes

A record is a run of bytes: those of its literals and those of its values, in the order of the
fields (`Record`). Reading and writing are both compared with it, so neither is compared with the
other.

1. The value of a field is read back from the bytes it is written as (`Field.read_of_pack`), and the
   bytes a field is read from are those its value is written as (`Field.pack_of_length`).
2. So a record's bytes are skipped as a whole and read as its values (`Record.read`), and bytes that
   are skipped as a whole are a record of the values that are read (`record_of_skipRecord`).
-/

namespace LightingBus

namespace Text

theorem utf8EncodeChar_of_lt {byte : UInt8} (h : byte < 0x80) :
    String.utf8EncodeChar (Char.ofUInt8 byte) = [byte] := by
  have hbyte : byte.toNat < 128 := UInt8.lt_iff_toNat_lt.mp h
  have hsize : (Char.ofUInt8 byte).utf8Size = 1 := by
    rw [Char.utf8Size_eq_one_iff, UInt32.le_iff_toNat_le]
    change byte.toUInt32.toNat ≤ 127
    rw [UInt8.toNat_toUInt32]
    omega
  rw [String.utf8EncodeChar_eq_singleton hsize]
  simp [Char.ofUInt8]

/-- Ascii bytes are a text. -/
theorem exists_of_isAscii {bytes : Bytes} (h : isAscii bytes = true) :
    ∃ text, ofBytes? bytes = some text := by
  have hchars : (bytes.map Char.ofUInt8).flatMap String.utf8EncodeChar = bytes := by
    induction bytes with
    | nil => rfl
    | cons byte bytes ih =>
      rw [isAscii, List.all_cons, Bool.and_eq_true, decide_eq_true_eq] at h
      rw [List.map_cons, List.flatMap_cons, utf8EncodeChar_of_lt h.1, ih h.2]
      rfl
  have hbytes : toBytes (String.ofList (bytes.map Char.ofUInt8)) = bytes := by
    simpa [toBytes, List.utf8Encode] using hchars
  rw [← hbytes]
  exact ⟨_, ofBytes?_toBytes _⟩

end Text

namespace Bytes

theorem untilZero_of_not_mem {bytes : Bytes} (h : 0 ∉ bytes) : bytes.untilZero = bytes := by
  apply List.takeWhile_eq_self_iff.mpr
  intro byte hbyte
  simpa using ne_of_mem_of_not_mem hbyte h

end Bytes

/-- Six bytes are the address they are read as. -/
theorem Address.exists_ofBytes? {bytes : Bytes} (h : bytes.length = 6) :
    ∃ address, ofBytes? bytes = some address ∧ address.toBytes = bytes := by
  match bytes, h with
  | [m₁, m₀, d₃, d₂, d₁, d₀], _ => exact ⟨_, rfl, toBytes_ofSix m₁ m₀ d₃ d₂ d₁ d₀⟩

/-- An address is read back from its bytes, save the manufacturer that stands for all of them. -/
theorem Address.ofBytes?_toBytes {address : Address} (h : address ≠ .manufacturer 0xFFFF) :
    ofBytes? address.toBytes = some address := by
  obtain ⟨manufacturer, device, rfl⟩ := exists_ofParts h
  rw [toBytes_ofParts, ofBytes?_ofParts]

theorem Hex.length_toBytes (digits : List Char) : (toBytes digits).length = digits.length / 2 := by
  fun_induction toBytes digits with
  | case1 high low rest ih =>
    simp only [List.length_cons, ih]
    omega
  | case2 digits hshort =>
    match digits, hshort with
    | [], _ => rfl
    | [digit], _ => simp
    | high :: low :: rest, hshort => exact absurd rfl (hshort high low rest)

namespace Format

variable {field : Field} {fields : List Field} {value : Value} {values : List Value}
  {data bytes front rest : Bytes} {n : ℕ}

/-! ## One field -/

/-- The bytes of the value stand for no other value: a text has no zero byte, which would end it,
and no address is the broadcast to the manufacturer `0xFFFF`, whose bytes are those of the broadcast
to all. -/
def Value.IsReadable : Value → Prop
  | .uid address | .optionalUid (some address) => address ≠ .manufacturer 0xFFFF
  | .ascii text => 0 ∉ Text.toBytes text
  | _ => True

instance : DecidablePred Value.IsReadable
  | .uid address => inferInstanceAs (Decidable (address ≠ _))
  | .optionalUid (some address) => inferInstanceAs (Decidable (address ≠ _))
  | .ascii text => inferInstanceAs (Decidable (0 ∉ Text.toBytes text))
  | .byte _ | .word _ | .dword _ | .optionalUid none | .bytes _ => .isTrue trivial

/-- A field takes its size, or all that is left. -/
theorem Field.length_eq_ok (h : field.length data = .ok n) :
    n ≤ data.length ∧ n = if field.isVariable then data.length else field.fixedSize := by
  cases field with
  | byte | word | dword | uid =>
    rw [Field.length_of_isFixed ⟨rfl, rfl⟩] at h
    split_ifs at h with hshort
    cases h
    exact ⟨Nat.le_of_not_lt hshort, rfl⟩
  | optionalUid =>
    rw [Field.length] at h
    split_ifs at h with hnone hsix
    · cases h
      exact ⟨Nat.zero_le _, hnone.symm⟩
    · cases h
      exact ⟨Nat.le_of_eq hsix.symm, hsix.symm⟩
  | ascii =>
    rw [Field.length] at h
    split_ifs at h
    cases h
    exact ⟨le_rfl, rfl⟩
  | rest =>
    cases h
    exact ⟨le_rfl, rfl⟩
  | literal digits =>
    rw [Field.length] at h
    split_ifs at h with hshort
    cases h
    exact ⟨Nat.le_of_not_lt hshort, rfl⟩

theorem Field.length_literal_append (digits : List Char) (rest : Bytes) :
    (Field.literal digits).length (Hex.toBytes digits ++ rest) =
      .ok (Hex.toBytes digits).length := by
  have hsize : (Field.literal digits).fixedSize = (Hex.toBytes digits).length :=
    (Hex.length_toBytes digits).symm
  rw [Field.length, hsize, if_neg (by simp), List.take_left' rfl, if_neg (not_not.mpr rfl)]

theorem Field.take_of_length_literal {digits : List Char}
    (h : (Field.literal digits).length data = .ok n) : data.take n = Hex.toBytes digits := by
  rw [Field.length] at h
  split_ifs at h with hshort hdigits
  cases h
  exact (not_not.mp hdigits).symm

theorem Field.length_append_of_isFixed (h : field.IsFixed) (hsize : front.length = field.fixedSize)
    (rest : Bytes) : field.length (front ++ rest) = .ok front.length := by
  have hlong : ¬ (front ++ rest).length < field.fixedSize := by
    rw [List.length_append]
    omega
  rw [Field.length_of_isFixed h, if_neg hlong, hsize]

/-- The value of a field is read back from its bytes. What comes behind a field of variable length
would be taken for its part, so nothing does. -/
theorem Field.read_of_pack (hpack : field.pack value = .ok front) (hvalue : value.IsReadable)
    (hrest : field.isVariable = true → rest = []) :
    field.length (front ++ rest) = .ok front.length ∧
      field.read? (front ++ rest) front.length = some value := by
  unfold Field.pack at hpack
  split at hpack
  case h_1 v =>
    cases hpack
    exact ⟨Field.length_append_of_isFixed ⟨rfl, rfl⟩ rfl rest, rfl⟩
  case h_2 v =>
    cases hpack
    refine ⟨Field.length_append_of_isFixed ⟨rfl, rfl⟩ rfl rest, ?_⟩
    simp [Bytes.ofWord, Field.read?]
  case h_3 v =>
    cases hpack
    refine ⟨Field.length_append_of_isFixed ⟨rfl, rfl⟩ rfl rest, ?_⟩
    simp [Bytes.ofDword, Field.read?]
  case h_4 address =>
    cases hpack
    have hlength := address.length_toBytes
    refine ⟨Field.length_append_of_isFixed ⟨rfl, rfl⟩ hlength rest, ?_⟩
    rw [Field.read?, List.take_left' hlength, Address.ofBytes?_toBytes hvalue]
    rfl
  case h_5 address =>
    obtain rfl := hrest rfl
    cases hpack
    cases address with
    | none => exact ⟨rfl, rfl⟩
    | some address =>
      rw [List.append_nil]
      refine ⟨by simp [Field.length], ?_⟩
      change some (Value.optionalUid
        (Address.ofBytes? (address.toBytes.take address.toBytes.length))) = _
      rw [List.take_length, Address.ofBytes?_toBytes hvalue]
  case h_6 text =>
    obtain rfl := hrest rfl
    split_ifs at hpack with htext
    cases hpack
    rw [List.append_nil, Field.length, Field.read?, Bytes.untilZero_of_not_mem hvalue,
      if_neg htext, Text.ofBytes?_toBytes]
    exact ⟨rfl, rfl⟩
  case h_7 bytes =>
    obtain rfl := hrest rfl
    cases hpack
    rw [List.append_nil]
    exact ⟨rfl, rfl⟩
  case h_8 => cases hpack

/-- A value of fixed size has bytes. -/
theorem Field.ne_nil_of_pack (hpack : field.pack value = .ok front)
    (hfixed : field.isVariable = false) : front ≠ [] := by
  unfold Field.pack at hpack
  split at hpack
  case h_4 address =>
    cases hpack
    exact List.ne_nil_of_length_pos (by rw [address.length_toBytes]; decide)
  case h_5 | h_6 | h_7 => cases hfixed
  all_goals
    cases hpack
    try exact List.cons_ne_nil _ _

/-- The bytes that a field is read from are those its value is written as. -/
theorem Field.pack_of_length (hlength : field.length data = .ok n)
    (hfield : field.takesValue = true) (hzero : field = .ascii → 0 ∉ data) :
    ∃ value, field.read? data n = some value ∧ field.pack value = .ok (data.take n) := by
  obtain ⟨hle, hn⟩ := Field.length_eq_ok hlength
  cases field with
  | byte =>
    obtain rfl : n = 1 := hn
    match data, hle with
    | a :: back, _ => exact ⟨_, rfl, rfl⟩
  | word =>
    obtain rfl : n = 2 := hn
    match data, hle with
    | a :: b :: back, _ =>
      exact ⟨_, rfl, congrArg Except.ok (Bytes.ofWord_word a b)⟩
  | dword =>
    obtain rfl : n = 4 := hn
    match data, hle with
    | a :: b :: c :: d :: back, _ =>
      exact ⟨_, rfl, congrArg Except.ok (Bytes.ofDword_dword a b c d)⟩
  | uid =>
    obtain rfl : n = 6 := hn
    have hsix : (data.take 6).length = 6 := List.length_take_of_le hle
    obtain ⟨address, hread, hbytes⟩ := Address.exists_ofBytes? hsix
    exact ⟨.uid address, by rw [Field.read?, hread]; rfl, congrArg Except.ok hbytes⟩
  | optionalUid =>
    obtain rfl : n = data.length := hn
    rw [Field.length] at hlength
    split_ifs at hlength with hnone hsix
    · obtain rfl := List.length_eq_zero_iff.mp hnone
      exact ⟨_, rfl, rfl⟩
    · obtain ⟨address, hread, hbytes⟩ := Address.exists_ofBytes? hsix
      refine ⟨.optionalUid (some address), ?_, ?_⟩
      · change some (Value.optionalUid (Address.ofBytes? (data.take _))) = _
        rw [List.take_length, hread]
      · rw [List.take_length]
        exact congrArg Except.ok hbytes
  | ascii =>
    obtain rfl : n = data.length := hn
    have huntil := Bytes.untilZero_of_not_mem (hzero rfl)
    rw [Field.length, huntil] at hlength
    split_ifs at hlength with htext
    rw [not_or, not_not] at htext
    obtain ⟨text, hread⟩ := Text.exists_of_isAscii htext.2
    have hbytes := Text.toBytes_of_ofBytes? hread
    refine ⟨.ascii text, by simp [Field.read?, huntil, hread], ?_⟩
    rw [List.take_length, Field.pack, hbytes, if_neg (by simp [htext.1, htext.2])]
  | rest =>
    obtain rfl : n = data.length := hn
    exact ⟨_, rfl, by rw [List.take_length]; rfl⟩
  | literal digits => cases hfield

/-! ## Records -/

/-- The bytes of a record with these values. -/
inductive Record : List Field → List Value → Bytes → Prop where
  | nil : Record [] [] []
  | literal {digits : List Char} {fields : List Field} {values : List Value} {bytes : Bytes} :
      Record fields values bytes →
        Record (.literal digits :: fields) values (Hex.toBytes digits ++ bytes)
  | value {field : Field} {fields : List Field} {value : Value} {values : List Value}
      {front bytes : Bytes} : field.pack value = .ok front → Record fields values bytes →
        Record (field :: fields) (value :: values) (front ++ bytes)

theorem record_nil_iff : Record [] values bytes ↔ values = [] ∧ bytes = [] := by
  constructor
  · rintro ⟨⟩
    exact ⟨rfl, rfl⟩
  · rintro ⟨rfl, rfl⟩
    exact .nil

theorem Record.append {others : List Field} {more : List Value} {back : Bytes}
    (h : Record fields values bytes) (hback : Record others more back) :
    Record (fields ++ others) (values ++ more) (bytes ++ back) := by
  induction h with
  | nil => exact hback
  | literal _ ih =>
    rw [List.append_assoc]
    exact .literal ih
  | value hpack _ ih =>
    rw [List.append_assoc]
    exact .value hpack ih

theorem Record.split {others : List Field} (h : Record (fields ++ others) values bytes) :
    ∃ front back first second, values = front ++ back ∧ bytes = first ++ second ∧
      Record fields front first ∧ Record others back second := by
  induction fields generalizing values bytes with
  | nil => exact ⟨[], values, [], bytes, rfl, rfl, .nil, h⟩
  | cons field fields ih =>
    cases h with
    | literal h =>
      obtain ⟨front, back, first, second, rfl, rfl, hfront, hback⟩ := ih h
      exact ⟨front, back, _, second, rfl, (List.append_assoc _ _ _).symm, .literal hfront, hback⟩
    | value hpack h =>
      obtain ⟨front, back, first, second, rfl, rfl, hfront, hback⟩ := ih h
      exact ⟨_ :: front, back, _, second, rfl, (List.append_assoc _ _ _).symm,
        .value hpack hfront, hback⟩

/-- A record has values if some field takes one, and bytes if that field has a fixed size. -/
theorem Record.ne_nil (h : Record fields values bytes)
    (htakes : ∃ field ∈ fields, field.takesValue = true) :
    values ≠ [] ∧ ((∀ field ∈ fields, field.isVariable = false) → bytes ≠ []) := by
  induction h with
  | nil =>
    obtain ⟨field, hfield, -⟩ := htakes
    cases hfield
  | literal _ ih =>
    obtain ⟨field, hfield, hvalue⟩ := htakes
    cases hfield with
    | head => cases hvalue
    | tail _ hfield =>
      obtain ⟨hvalues, hbytes⟩ := ih ⟨field, hfield, hvalue⟩
      refine ⟨hvalues, fun hfixed => List.append_ne_nil_of_right_ne_nil _ (hbytes ?_)⟩
      exact fun other hother => hfixed other (List.mem_cons_of_mem _ hother)
  | value hpack =>
    refine ⟨List.cons_ne_nil _ _, fun hfixed => List.append_ne_nil_of_left_ne_nil ?_ _⟩
    exact Field.ne_nil_of_pack hpack (hfixed _ List.mem_cons_self)

/-- Only the last field may be of variable length, so what follows a field of variable length is
nothing. -/
theorem variableOnlyLast_cons : variableOnlyLast (field :: fields) = true ↔
    (fields ≠ [] → field.isVariable = false) ∧ variableOnlyLast fields = true := by
  cases fields with
  | nil => simp [variableOnlyLast]
  | cons other fields => simp [variableOnlyLast]

theorem variableOnlyLast_of_forall (h : ∀ field ∈ fields, field.isVariable = false) :
    variableOnlyLast fields = true := by
  rw [variableOnlyLast, List.all_eq_true]
  intro field hfield
  rw [h field (List.mem_of_mem_dropLast hfield)]
  rfl

/-- A record is read as its values, and the bytes behind it are left. Only a record of fixed size
can have bytes behind it. -/
theorem Record.read (h : Record fields values bytes) (hlast : variableOnlyLast fields = true)
    (hvalues : ∀ value ∈ values, value.IsReadable) {rest : Bytes}
    (hrest : rest ≠ [] → ∀ field ∈ fields, field.isVariable = false) :
    skipRecord fields (bytes ++ rest) = .ok rest ∧ readValues fields (bytes ++ rest) = values := by
  induction h with
  | nil => exact ⟨rfl, rfl⟩
  | @literal digits fields values bytes h ih =>
    obtain ⟨-, hlast⟩ := variableOnlyLast_cons.mp hlast
    obtain ⟨hskip, hread⟩ := ih hlast hvalues fun hne field hfield =>
      hrest hne field (List.mem_cons_of_mem _ hfield)
    have hlength := Field.length_literal_append digits (bytes ++ rest)
    rw [List.append_assoc, skipRecord, readValues, hlength]
    change skipRecord fields (List.drop _ (_ ++ _)) = _ ∧
      readValues fields (List.drop _ (_ ++ _)) = _
    rw [List.drop_left' rfl]
    exact ⟨hskip, hread⟩
  | @value field fields value values front bytes hpack h ih =>
    obtain ⟨hfield, hlast⟩ := variableOnlyLast_cons.mp hlast
    obtain ⟨hvalue, hvalues⟩ := List.forall_mem_cons.mp hvalues
    obtain ⟨hskip, hread⟩ := ih hlast hvalues fun hne field hfield =>
      hrest hne field (List.mem_cons_of_mem _ hfield)
    have hbehind : field.isVariable = true → bytes ++ rest = [] := by
      intro hvariable
      obtain rfl : fields = [] := by
        by_contra hne
        rw [hfield hne] at hvariable
        cases hvariable
      obtain ⟨-, rfl⟩ := record_nil_iff.mp h
      by_contra hne
      rw [hrest hne field List.mem_cons_self] at hvariable
      cases hvariable
    obtain ⟨hlength, hvalue⟩ := Field.read_of_pack hpack hvalue hbehind
    rw [List.append_assoc, skipRecord, readValues, hlength]
    change skipRecord fields (List.drop _ (_ ++ _)) = _ ∧ _
    dsimp only
    rw [hvalue, List.drop_left' rfl, hread]
    exact ⟨hskip, rfl⟩

/-- Bytes that are skipped are a record of the values they are read as, where a text at the end
holds no zero byte. -/
theorem record_of_skipRecord {data rest : Bytes} (hskip : skipRecord fields data = .ok rest)
    (hlast : variableOnlyLast fields = true)
    (hzero : Field.ascii ∈ fields → 0 ∉ data.drop (leastSize fields)) :
    ∃ bytes, data = bytes ++ rest ∧ Record fields (readValues fields data) bytes := by
  induction fields generalizing data with
  | nil =>
    cases hskip
    exact ⟨[], rfl, .nil⟩
  | cons field fields ih =>
    obtain ⟨hfield, hlast⟩ := variableOnlyLast_cons.mp hlast
    rw [skipRecord] at hskip
    cases hlength : field.length data with
    | error e =>
      rw [hlength] at hskip
      cases hskip
    | ok n =>
      rw [hlength] at hskip
      obtain ⟨hle, hn⟩ := Field.length_eq_ok hlength
      have hback : Field.ascii ∈ fields → 0 ∉ (data.drop n).drop (leastSize fields) := by
        intro hascii
        rw [hfield (List.ne_nil_of_mem hascii)] at hn
        rw [List.drop_drop, hn]
        exact hzero (List.mem_cons_of_mem _ hascii)
      obtain ⟨bytes, hbytes, hrecord⟩ := ih hskip hlast hback
      have hdata : data = data.take n ++ bytes ++ rest := by
        rw [List.append_assoc, ← hbytes, List.take_append_drop]
      refine ⟨data.take n ++ bytes, hdata, ?_⟩
      rw [readValues, hlength]
      dsimp only
      by_cases hvalue : field.takesValue = true
      · have hnone : field = .ascii → 0 ∉ data := by
          rintro rfl
          obtain rfl : fields = [] := by
            by_contra hne
            cases hfield hne
          exact hzero List.mem_cons_self
        obtain ⟨value, hread, hpack⟩ := Field.pack_of_length hlength hvalue hnone
        rw [hread]
        exact .value hpack hrecord
      · cases field with
        | literal digits =>
          rw [Field.take_of_length_literal hlength]
          exact .literal hrecord
        | _ => exact absurd rfl hvalue

end Format

end LightingBus
