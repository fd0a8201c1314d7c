import LightingBus.Format.Basic

/-!
# Reading records

Parameter data is checked against a format and read field by field. The number of records is what
checking returns, and reading gives as many values per record as the format has fields that take
one.
-/

namespace LightingBus

namespace Format

/-- How many bytes at the front of the data a field takes. -/
def Field.length (field : Field) (data : Bytes) : Except Error Nat :=
  match field with
  | .optionalUid =>
    if data.length = 0 then .ok 0
    else if data.length = 6 then .ok 6
    else if data.length < 6 then .error .dataTooShort
    else .error .trailingData
  | .ascii =>
    if Label.maxLength < data.untilZero.length ∨ ¬ Text.isAscii data.untilZero then
      .error .invalidAscii
    else .ok data.length
  | .rest => .ok data.length
  | .literal digits =>
    if data.length < field.fixedSize then .error .dataTooShort
    else if Hex.toBytes digits ≠ data.take field.fixedSize then .error .literalMismatch
    else .ok field.fixedSize
  | _ => if data.length < field.fixedSize then .error .dataTooShort else .ok field.fixedSize

/-- The value of a field at the front of the data, where the field takes `length` bytes. -/
def Field.read? (field : Field) (data : Bytes) (length : Nat) : Option Value :=
  match field, data with
  | .byte, a :: _ => some (.byte a)
  | .word, a :: b :: _ => some (.word (Bytes.word a b))
  | .dword, a :: b :: c :: d :: _ => some (.dword (Bytes.dword a b c d))
  | .uid, data => (Address.ofBytes? (data.take 6)).map .uid
  | .optionalUid, data => some (.optionalUid (Address.ofBytes? (data.take length)))
  | .ascii, data => some (.ascii ((Text.ofBytes? data.untilZero).getD ""))
  | .rest, data => some (.bytes data)
  | _, _ => none

/-- What is left of the data behind one record. -/
def skipRecord : List Field → Bytes → Except Error Bytes
  | [], data => .ok data
  | field :: fields, data => do
    let length ← field.length data
    skipRecord fields (data.drop length)

/-- Counts records until the data is exhausted. A format whose records repeat has a field of fixed
size, so each record shortens the data. -/
def countRecords (fields : List Field) (data : Bytes) : Except Error Nat :=
  match skipRecord fields data with
  | .error e => .error e
  | .ok rest =>
    if rest.isEmpty then .ok 1
    else if rest.length < data.length then (countRecords fields rest).map (· + 1)
    else .error .trailingData
termination_by data.length

/-- Checks data against a format and returns the number of records. -/
def validate (format : Format) (data : Bytes) : Except Error Nat :=
  if format.fields.isEmpty ∨ (¬ format.singleton ∧ data.isEmpty) then
    if data.isEmpty then .ok 0 else .error .trailingData
  else if format.singleton then do
    let rest ← skipRecord format.fields data
    if rest.isEmpty then .ok 1 else .error .trailingData
  else countRecords format.fields data

/-- Reads the values of a run of fields; reading ends at a field that does not fit. -/
def readValues : List Field → Bytes → List Value
  | [], _ => []
  | field :: fields, data =>
    match field.length data with
    | .error _ => []
    | .ok length =>
      match field.read? data length with
      | none => readValues fields (data.drop length)
      | some value => value :: readValues fields (data.drop length)

/-- Checks data against a format and reads its values. Literals are checked and have no value. -/
def unpack (format : Format) (data : Bytes) : Except Error (List Value) := do
  let records ← validate format data
  return readValues (List.replicate records format.fields).flatten data

end Format

end LightingBus
