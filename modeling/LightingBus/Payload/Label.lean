import LightingBus.Bytes

/-!
# Labels

A label is a text of at most 32 bytes. On the wire it ends with the parameter data or at the first
zero byte.
-/

namespace LightingBus

/-- What is said of parameter data that its parameter cannot have. -/
def malformedText : String := "There was a deserialization error."

namespace Text

/-- The bytes of a text. -/
def toBytes (text : String) : Bytes :=
  text.toUTF8.data.toList

/-- The text with these bytes, if they are well-formed. -/
def ofBytes? (bytes : Bytes) : Option String :=
  String.fromUTF8? bytes.toByteArray

/-- Every byte is below 128. -/
def isAscii (bytes : Bytes) : Bool :=
  bytes.all (· < 0x80)

theorem toBytes_of_ofBytes? {bytes : Bytes} {text : String} (h : ofBytes? bytes = some text) :
    toBytes text = bytes := by
  unfold ofBytes? String.fromUTF8? at h
  split at h
  · cases h
    simp [toBytes, String.fromUTF8]
  · cases h

@[simp] theorem ofBytes?_toBytes (text : String) : ofBytes? (toBytes text) = some text := by
  have h : (toBytes text).toByteArray = text.toUTF8 := by
    apply ByteArray.ext
    simp [toBytes]
  unfold ofBytes? String.fromUTF8?
  rw [h]
  exact dif_pos text.isValidUTF8

end Text

/-- A text of at most 32 bytes. -/
structure Label where
  text : String
  length_le : (Text.toBytes text).length ≤ 32
  deriving DecidableEq

namespace Label

/-- The most bytes a label has. -/
def maxLength : Nat := 32

/-- The bytes of a label. -/
def toBytes (label : Label) : Bytes :=
  Text.toBytes label.text

/-- A text as a label, if it is short enough. -/
def ofText? (text : String) : Option Label :=
  if h : (Text.toBytes text).length ≤ maxLength then some ⟨text, h⟩ else none

/-- The label with no text. -/
def empty : Label := ⟨"", by decide⟩

/-- Appends characters to a label as long as they fit. -/
def fill (label : Label) : List Char → Label
  | [] => label
  | c :: rest =>
    match ofText? (label.text.push c) with
    | none => label
    | some label => label.fill rest

/-- Reads the label in front of the first zero byte. -/
def decode? (data : Bytes) : Option Label :=
  if data.untilZero.length ≤ maxLength then (Text.ofBytes? data.untilZero).bind ofText? else none

@[simp] theorem ofText?_text (label : Label) : ofText? label.text = some label := by
  simp [ofText?, maxLength, label.length_le]

end Label

end LightingBus
