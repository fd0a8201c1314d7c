import LightingBus.Payload.Label
import LightingBus.Proofs.Format.Records

/-!
# Labels and their bytes

A label is read up to the first zero byte. So it is read back from its own bytes unless one of them
is zero (`Label.decode?_toBytes`), and every text that the formats let through is read as some label
(`Label.exists_decode?`). A label filled with the characters of an ascii text is ascii, however many
of them it takes (`Label.isAscii_fill`).
-/

namespace LightingBus

namespace Text

theorem toBytes_ofList (chars : List Char) :
    toBytes (String.ofList chars) = chars.flatMap String.utf8EncodeChar := by
  simp [toBytes, List.utf8Encode]

theorem toBytes_push (text : String) (c : Char) :
    toBytes (text.push c) = toBytes text ++ String.utf8EncodeChar c := by
  have htext : toBytes text = text.toList.flatMap String.utf8EncodeChar := by
    rw [← toBytes_ofList, String.ofList_toList]
  have hpush : toBytes (text.push c) = (text.toList ++ [c]).flatMap String.utf8EncodeChar := by
    rw [← toBytes_ofList, ← String.toList_push, String.ofList_toList]
  rw [hpush, htext, List.flatMap_append, List.flatMap_singleton]

theorem isAscii_append (front back : Bytes) :
    isAscii (front ++ back) = (isAscii front && isAscii back) :=
  List.all_append

theorem isAscii_of_sublist {part bytes : Bytes} (h : part.Sublist bytes)
    (hascii : isAscii bytes = true) : isAscii part = true :=
  List.all_eq_true.mpr fun byte hbyte => List.all_eq_true.mp hascii byte (h.subset hbyte)

theorem isAscii_untilZero {bytes : Bytes} (h : isAscii bytes = true) :
    isAscii bytes.untilZero = true :=
  isAscii_of_sublist (List.takeWhile_sublist _) h

/-- Texts are equal if their bytes are. -/
theorem toBytes_injective : Function.Injective toBytes := by
  intro a b h
  have hread := ofBytes?_toBytes a
  rw [h, ofBytes?_toBytes] at hread
  exact (Option.some.inj hread).symm

end Text

namespace Label

theorem length_toBytes_le (label : Label) : label.toBytes.length ≤ maxLength :=
  label.length_le

theorem text_of_ofText? {text : String} {label : Label} (h : ofText? text = some label) :
    label.text = text := by
  unfold ofText? at h
  split_ifs at h
  cases h
  rfl

/-- A label is read back from its bytes, unless one of them ends it. -/
theorem decode?_toBytes {label : Label} (h : 0 ∉ label.toBytes) :
    decode? label.toBytes = some label := by
  rw [decode?, Bytes.untilZero_of_not_mem h, if_pos label.length_toBytes_le, toBytes,
    Text.ofBytes?_toBytes, Option.bind_some, ofText?_text]

/-- Bytes that can be sent as a text are read as the label in front of the first zero byte. -/
theorem exists_decode? {data : Bytes} (h : Format.IsText data) :
    ∃ label : Label, decode? data = some label ∧ label.toBytes = data.untilZero := by
  obtain ⟨hlength, hascii⟩ := h
  obtain ⟨text, htext⟩ := Text.exists_of_isAscii hascii
  have hbytes := Text.toBytes_of_ofBytes? htext
  have hfits : (Text.toBytes text).length ≤ maxLength := hbytes ▸ hlength
  refine ⟨⟨text, hfits⟩, ?_, hbytes⟩
  rw [decode?, if_pos hlength, htext, Option.bind_some, ofText?, dif_pos hfits]

/-- Ascii characters leave a label ascii, as many of them as it takes. -/
theorem isAscii_fill (chars : List Char) : ∀ {label : Label},
    Text.isAscii label.toBytes = true →
    Text.isAscii (chars.flatMap String.utf8EncodeChar) = true →
      Text.isAscii (label.fill chars).toBytes = true := by
  induction chars with
  | nil => exact fun h _ => h
  | cons c chars ih =>
    intro label hlabel hchars
    rw [List.flatMap_cons, Text.isAscii_append, Bool.and_eq_true] at hchars
    rw [fill]
    split
    next => exact hlabel
    next longer hpush =>
      refine ih ?_ hchars.2
      rw [toBytes, text_of_ofText? hpush, Text.toBytes_push, Text.isAscii_append,
        Bool.and_eq_true]
      exact ⟨hlabel, hchars.1⟩

end Label

end LightingBus
