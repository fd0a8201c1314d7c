import LightingBus.Proofs.Format.RoundTrip
import LightingBus.Proofs.Payload.Labels
import Mathlib

/-!
# The grammar of written formats

A text is read as a format exactly if it is written in the grammar of formats (`parse_eq_ok_iff`).

1. The grammar is said by writing: each field is written as one letter, or as digits between two
   marks (`Field.symbol`), and a run of fields has to keep some rules (`IsWritten`).
2. What is written is read back, one field after the other (`readFields?_symbol`), and what is read
   was written (`eq_of_readFields?`).
3. The marks of a literal are ascii characters. A byte below 128 stands for its character alone
   (`Text.encodes_ascii`), so bytes that are cut behind the one mark and in front of the other are
   the characters between them, and no character is cut (`Text.exists_split`).
-/

namespace LightingBus

namespace Text

/-! ## Ascii bytes of a text -/

variable {c : Char} {byte : UInt8} {chars : List Char} {front back : Bytes}

/-- A byte below 128 in the encoding of a character is all of it. -/
theorem encodes_ascii (hbyte : byte ∈ String.utf8EncodeChar c) (hascii : byte < 0x80) :
    String.utf8EncodeChar c = [byte] ∧ c = Char.ofUInt8 byte := by
  have hlt : byte.toNat < 128 := UInt8.lt_iff_toNat_lt.mp hascii
  have hone : c.val.toNat ≤ 127 := by
    by_contra hlong
    -- The first byte of a longer encoding is at least 192, the others are at least 128.
    simp only [String.utf8EncodeChar, if_neg hlong] at hbyte
    split_ifs at hbyte <;>
      simp only [List.mem_cons, List.not_mem_nil, or_false, ← UInt8.toNat_inj,
        UInt8.toNat_ofNat'] at hbyte <;> omega
  have hencoding : String.utf8EncodeChar c = [UInt8.ofNat c.val.toNat] := by
    simp only [String.utf8EncodeChar, if_pos hone]
  rw [hencoding, List.mem_singleton] at hbyte
  subst hbyte
  refine ⟨hencoding, Char.ext (UInt32.toNat_inj.mp ?_)⟩
  simp only [Char.ofUInt8, UInt8.toNat_toUInt32, UInt8.toNat_ofNat']
  omega

/-- A text whose bytes are cut at an ascii byte is cut at the character of that byte. -/
theorem exists_split (hascii : byte < 0x80)
    (h : chars.flatMap String.utf8EncodeChar = front ++ byte :: back) :
    ∃ before behind, chars = before ++ Char.ofUInt8 byte :: behind ∧
      before.flatMap String.utf8EncodeChar = front ∧
      behind.flatMap String.utf8EncodeChar = back := by
  induction chars generalizing front with
  | nil => simp at h
  | cons c chars ih =>
    rw [List.flatMap_cons, List.append_eq_append_iff] at h
    rcases h with ⟨more, rfl, hmore⟩ | ⟨more, hchar, hmore⟩
    · obtain ⟨before, behind, rfl, rfl, hbehind⟩ := ih hmore
      exact ⟨c :: before, behind, rfl, List.flatMap_cons, hbehind⟩
    · cases more with
      | nil =>
        obtain ⟨before, behind, rfl, hbefore, hbehind⟩ := @ih [] hmore.symm
        refine ⟨c :: before, behind, rfl, ?_, hbehind⟩
        rw [List.flatMap_cons, hbefore, hchar, List.append_nil, List.append_nil]
      | cons first more =>
        obtain ⟨rfl, hback⟩ := List.cons_eq_cons.mp hmore
        have hmem : byte ∈ String.utf8EncodeChar c := by simp [hchar]
        obtain ⟨hone, rfl⟩ := encodes_ascii hmem hascii
        rw [hone, List.singleton_eq_append_iff] at hchar
        obtain ⟨rfl, hmore⟩ | ⟨-, hmore⟩ := hchar
        · obtain ⟨-, rfl⟩ := List.cons_eq_cons.mp hmore
          exact ⟨[], chars, rfl, rfl, hback.symm⟩
        · cases hmore

end Text

theorem Hex.isSome_digit?_iff {c : Char} :
    (digit? c).isSome = true ↔ c ∈ "0123456789abcdefABCDEF".toList := by
  have hascii : ∀ n < 128, (digit? (Char.ofNat n)).isSome = true ↔
      Char.ofNat n ∈ "0123456789abcdefABCDEF".toList := by
    decide +kernel
  have hletters : ∀ letter ∈ "0123456789abcdefABCDEF".toList, letter.toNat < 128 := by simp
  by_cases hc : c.toNat < 128
  · rw [← Char.ofNat_toNat c]
    exact hascii c.toNat hc
  · refine iff_of_false ?_ fun hmem => hc (hletters c hmem)
    have hle (d : Char) (hd : d.toNat < 128) : ¬ c ≤ d := fun h =>
      hc (Nat.lt_of_le_of_lt (UInt32.le_iff_toNat_le.mp h) hd)
    simp [digit?, hle]

namespace Format

variable {text : String} {format : Format} {field : Field} {fields : List Field}
  {cs digits rest : List Char} {marked : Bool}

/-! ## Writing -/

/-- How a field is written. -/
def Field.symbol : Field → List Char
  | .byte => ['b']
  | .word => ['w']
  | .dword => ['d']
  | .uid => ['u']
  | .optionalUid => ['v']
  | .ascii => ['a']
  | .rest => ['r']
  | .literal digits => '#' :: (digits ++ ['h'])

/-- How fields are written, with a dollar sign at the end or without. -/
def written (fields : List Field) (marked : Bool) : List Char :=
  fields.flatMap Field.symbol ++ if marked then ['$'] else []

theorem written_cons (field : Field) (fields : List Field) (marked : Bool) :
    written (field :: fields) marked = field.symbol ++ written fields marked := by
  rw [written, List.flatMap_cons, List.append_assoc]
  rfl

/-- A literal has pairs of hexadecimal digits, at least one. -/
def Field.IsWritten : Field → Prop
  | .literal digits => digits ≠ [] ∧ Even digits.length ∧
      ∀ c ∈ digits, c ∈ "0123456789abcdefABCDEF".toList
  | _ => True

/-- The fields of a format: at most 16 of at most 231 bytes, and none behind one of variable
length. -/
structure IsWritten (fields : List Field) : Prop where
  each : ∀ field ∈ fields, field.IsWritten
  count : fields.length ≤ 16
  last : ∀ front field back, fields = front ++ field :: back → field.isVariable = true → back = []
  size : (fields.map Field.fixedSize).sum ≤ 231

theorem isLiteral_iff : isLiteral digits = true ↔ (Field.literal digits).IsWritten := by
  simp only [isLiteral, Field.IsWritten, Bool.and_eq_true, Bool.not_eq_true', List.all_eq_true,
    List.isEmpty_eq_false_iff, beq_iff_eq, Nat.even_iff, Hex.isSome_digit?_iff, ne_eq, and_assoc]

/-- A letter stands for a field that is written as this letter. -/
theorem symbol_of_ofLetter? {c : Char} (h : Field.ofLetter? c = some field) :
    field.symbol = [c] ∧ field.IsWritten := by
  unfold Field.ofLetter? at h
  split at h <;> cases h <;> exact ⟨rfl, trivial⟩

theorem splitLiteral?_eq_some_iff : splitLiteral? cs = some (digits, rest) ↔
    cs = digits ++ 'h' :: rest ∧ (Field.literal digits).IsWritten := by
  rw [← isLiteral_iff]
  constructor
  · intro h
    have hsplit : cs.takeWhile (· ≠ 'h') ++ cs.dropWhile (· ≠ 'h') = cs :=
      List.takeWhile_append_dropWhile
    rw [splitLiteral?] at h
    split at h
    · cases h
    next mark behind hback =>
      have hhead := List.head?_dropWhile_not (· ≠ 'h') cs
      rw [hback] at hhead
      obtain rfl : mark = 'h' := by simpa using hhead
      dsimp only at h
      split_ifs at h with hliteral
      cases h
      rw [hback] at hsplit
      exact ⟨hsplit.symm, hliteral⟩
  · rintro ⟨rfl, hliteral⟩
    have hmark : ∀ c ∈ digits, c ≠ 'h' := by
      rintro c hc rfl
      have hdigit := (isLiteral_iff.mp hliteral).2.2 _ hc
      exact absurd hdigit (by decide)
    have hdigits : ∀ c ∈ digits, decide (c ≠ 'h') = true := by simpa using hmark
    rw [splitLiteral?, List.dropWhile_append_of_pos hdigits, List.takeWhile_append_of_pos hdigits]
    simp [hliteral]

/-- A written field is read back, and what is behind it is read next. -/
theorem readFields?_symbol (h : field.IsWritten) (cs : List Char) :
    readFields? (field.symbol ++ cs) =
      (readFields? cs).map fun (fields, single) => (field :: fields, single) := by
  cases field with
  | literal digits =>
    show readFields? ('#' :: (digits ++ ['h'] ++ cs)) = _
    have hsplit : splitLiteral? (digits ++ ['h'] ++ cs) = some (digits, cs) :=
      splitLiteral?_eq_some_iff.mpr ⟨by simp, h⟩
    rw [readFields?, if_pos rfl]
    split
    next hnone =>
      rw [hsplit] at hnone
      cases hnone
    next other rest hsome =>
      rw [hsplit] at hsome
      cases hsome
      rfl
  | _ =>
    show readFields? (_ :: cs) = _
    rw [readFields?]
    rfl

theorem readFields?_written (h : ∀ field ∈ fields, field.IsWritten) (marked : Bool) :
    readFields? (written fields marked) = some (fields, marked) := by
  induction fields with
  | nil => cases marked <;> simp [written, readFields?]
  | cons field fields ih =>
    obtain ⟨hfield, hfields⟩ := List.forall_mem_cons.mp h
    rw [written_cons, readFields?_symbol hfield, ih hfields]
    rfl

theorem eq_of_readFields? (h : readFields? cs = some (fields, marked)) :
    cs = written fields marked ∧ ∀ field ∈ fields, field.IsWritten := by
  fun_induction readFields? cs generalizing fields marked with
  | case1 =>
    cases h
    exact ⟨rfl, nofun⟩
  | case2 => cases h
  | case3 cs digits rest hsplit hshorter ih =>
    obtain ⟨⟨fields, marked⟩, hread, rfl, rfl⟩ := Option.map_eq_some_iff.mp h
    obtain ⟨rfl, hdigits⟩ := splitLiteral?_eq_some_iff.mp hsplit
    obtain ⟨rfl, hfields⟩ := ih hread
    refine ⟨?_, List.forall_mem_cons.mpr ⟨hdigits, hfields⟩⟩
    rw [written_cons]
    simp [Field.symbol]
  | case4 cs hempty =>
    cases h
    rw [List.isEmpty_iff.mp hempty]
    exact ⟨rfl, nofun⟩
  | case5 => cases h
  | case6 => cases h
  | case7 c cs hmark hend field hletter ih =>
    obtain ⟨⟨fields, marked⟩, hread, rfl, rfl⟩ := Option.map_eq_some_iff.mp h
    obtain ⟨hsymbol, hfield⟩ := symbol_of_ofLetter? hletter
    obtain ⟨rfl, hfields⟩ := ih hread
    rw [written_cons, hsymbol]
    exact ⟨rfl, List.forall_mem_cons.mpr ⟨hfield, hfields⟩⟩

theorem readFields?_eq_some_iff : readFields? cs = some (fields, marked) ↔
    cs = written fields marked ∧ ∀ field ∈ fields, field.IsWritten := by
  constructor
  · exact eq_of_readFields?
  · rintro ⟨rfl, hwritten⟩
    exact readFields?_written hwritten marked

/-! ## The rules of a format -/

theorem variableOnlyLast_iff : variableOnlyLast fields = true ↔
    ∀ front field back, fields = front ++ field :: back → field.isVariable = true → back = [] := by
  induction fields with
  | nil => simp [variableOnlyLast]
  | cons first fields ih =>
    rw [variableOnlyLast_cons, ih]
    constructor
    · rintro ⟨hfirst, hlast⟩ front field back hfields hvariable
      cases front with
      | nil =>
        obtain ⟨rfl, rfl⟩ := List.cons_eq_cons.mp hfields
        by_contra hne
        rw [hfirst hne] at hvariable
        cases hvariable
      | cons other front => exact hlast front field back (List.cons_eq_cons.mp hfields).2 hvariable
    · intro hlast
      refine ⟨fun hne => ?_, ?_⟩
      · by_contra hvariable
        exact hne (hlast [] first fields rfl (by simpa using hvariable))
      · rintro front field back rfl hvariable
        exact hlast (first :: front) field back rfl hvariable

theorem leastSize_eq_sum (fields : List Field) :
    leastSize fields = (fields.map Field.fixedSize).sum := by
  induction fields with
  | nil => rfl
  | cons field fields ih => rw [leastSize, ih, List.map_cons, List.sum_cons]

theorem isSingleton_iff : isSingleton fields marked = true ↔ marked = true ∨
    (∃ front field, fields = front ++ [field] ∧ field.isVariable = true) ∨
      ∀ field ∈ fields, field.takesValue = false := by
  have hend : fields.getLast?.any Field.isVariable = true ↔
      ∃ front field, fields = front ++ [field] ∧ field.isVariable = true := by
    rw [Option.any_eq_true]
    simp only [List.getLast?_eq_some_iff]
    constructor
    · rintro ⟨field, ⟨front, hfields⟩, hvariable⟩
      exact ⟨front, field, hfields, hvariable⟩
    · rintro ⟨front, field, hfields, hvariable⟩
      exact ⟨field, ⟨front, hfields⟩, hvariable⟩
  rw [isSingleton, Bool.or_eq_true, Bool.or_eq_true, hend, Bool.not_eq_true', List.any_eq_false,
    or_assoc]
  simp only [Bool.not_eq_true]

/-- Fields that are read make a format if they keep the rules. -/
theorem parse_eq_ok_iff_readFields? : parse text = .ok format ↔
    ∃ marked, readFields? text.toList = some (format.fields, marked) ∧
      isSingleton format.fields marked = format.singleton ∧
      variableOnlyLast format.fields = true ∧ format.fields.length ≤ maxFields ∧
        format.fixedSize ≤ maxParameterLength := by
  constructor
  · intro h
    unfold parse at h
    split at h
    · cases h
    next fields marked hread =>
      dsimp only at h
      split_ifs at h with hchecks
      cases h
      exact ⟨marked, hread, rfl, hchecks⟩
  · rintro ⟨marked, hread, hsingleton, hchecks⟩
    rw [parse, hread]
    dsimp only
    rw [hsingleton]
    exact if_pos hchecks

/-- What is no format is refused with one and the same error. -/
theorem eq_of_parse_eq_error {e : Error} (h : parse text = .error e) : e = .invalidFormat := by
  unfold parse at h
  split at h
  · cases h
    rfl
  · dsimp only at h
    split_ifs at h
    cases h
    rfl

/-- Between the marks of a literal there are whole characters. -/
theorem exists_literal {front digits back : Bytes}
    (h : Text.toBytes text = front ++ 0x23 :: (digits ++ 0x68 :: back)) (hfirst : 0x68 ∉ digits) :
    ∃ before inside behind : List Char,
      text.toList = before ++ '#' :: (inside ++ 'h' :: behind) ∧ 'h' ∉ inside ∧
        Text.toBytes (.ofList before) = front ∧ Text.toBytes (.ofList inside) = digits ∧
        Text.toBytes (.ofList behind) = back := by
  have hchars : text.toList.flatMap String.utf8EncodeChar = Text.toBytes text := by
    rw [← Text.toBytes_ofList, String.ofList_toList]
  rw [h] at hchars
  obtain ⟨before, chars, htext, hfront, hbehind⟩ := Text.exists_split (by decide) hchars
  obtain ⟨inside, behind, rfl, hdigits, hback⟩ := Text.exists_split (by decide) hbehind
  simp only [Text.toBytes_ofList]
  refine ⟨before, inside, behind, htext, fun hmem => hfirst ?_, hfront, hdigits, hback⟩
  rw [← hdigits, List.mem_flatMap]
  exact ⟨'h', hmem, by decide⟩

/-- **The grammar of formats.** A text is read as a format exactly if it is how the format's fields
are written, with a dollar sign at the end or without, and they keep the rules. The format is of a
single record exactly if there is a dollar sign, its last field is of variable length or no field
takes a value. All other texts are refused. No character is cut where bytes are cut at the marks of
a literal. -/
theorem parse_eq_ok_iff (text : String) :
    (∀ format, parse text = .ok format ↔ IsWritten format.fields ∧
      ∃ marked, text.toList = written format.fields marked ∧
        (format.singleton = true ↔ marked = true ∨
          (∃ front field, format.fields = front ++ [field] ∧ field.isVariable = true) ∨
            ∀ field ∈ format.fields, field.takesValue = false)) ∧
    (∀ e, parse text = .error e → e = .invalidFormat) ∧
    (∀ front digits back, Text.toBytes text = front ++ 0x23 :: (digits ++ 0x68 :: back) →
      0x68 ∉ digits → ∃ before inside behind : List Char,
        text.toList = before ++ '#' :: (inside ++ 'h' :: behind) ∧ 'h' ∉ inside ∧
          Text.toBytes (.ofList before) = front ∧ Text.toBytes (.ofList inside) = digits ∧
          Text.toBytes (.ofList behind) = back) := by
  refine ⟨fun format => ?_, fun e => eq_of_parse_eq_error, fun _ _ _ => exists_literal⟩
  have hsize : format.fixedSize = (format.fields.map Field.fixedSize).sum :=
    leastSize_eq_sum format.fields
  rw [parse_eq_ok_iff_readFields?, hsize]
  constructor
  · rintro ⟨marked, hread, hsingleton, hlast, hcount, hfits⟩
    obtain ⟨htext, heach⟩ := readFields?_eq_some_iff.mp hread
    refine ⟨⟨heach, hcount, variableOnlyLast_iff.mp hlast, hfits⟩, marked, htext, ?_⟩
    rw [← hsingleton]
    exact isSingleton_iff
  · rintro ⟨hwritten, marked, htext, hsingleton⟩
    refine ⟨marked, readFields?_eq_some_iff.mpr ⟨htext, hwritten.each⟩, ?_,
      variableOnlyLast_iff.mpr hwritten.last, hwritten.count, hwritten.size⟩
    rw [Bool.eq_iff_iff, hsingleton]
    exact isSingleton_iff

end Format

end LightingBus
